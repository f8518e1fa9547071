/-
  Ambient.Console.Literal

  Which texts are literals: numbers, texts, truth values and other constants, tuples, sets and tables
  of them, and sums of a real and an imaginary number. What stands in a set or serves as a key must be
  hashable, which sets and tables are not. The renderer from outside (`Ambient.Console`) asks only
  whether a parameter is one.
-/
import Ambient.Console.Lexeme

namespace Ambient.Console

/-- What matters about a literal for what stands around it. -/
inductive Literal where
  | real
  | signedReal
  | imaginary
  | other (isHashable : Bool)
  deriving DecidableEq, Repr

namespace Literal

/-- Whether a literal can stand in a set. -/
def isHashable : Literal → Bool
  | .other isHashable => isHashable
  | _ => true

/-- The tuple of some literals. -/
def tuple (items : List Literal) : Literal :=
  .other (items.all isHashable)

/-- A number with a sign. -/
def signed? : Literal → Option Literal
  | .real => some .signedReal
  | .imaginary => some (.other true)
  | _ => none

/-- The sum of a real and an imaginary number. -/
def sum? (left right : Literal) : Option Literal :=
  if (left == .real || left == .signedReal) && right == .imaginary then some (.other true) else none

/-- The pieces after a quoted text that continue it. -/
def afterQuoted (isBytes : Bool) : List Lexeme → List Lexeme
  | .quoted more :: rest => if more == isBytes then afterQuoted isBytes rest else .quoted more :: rest
  | rest => rest

/-- The words that are literals. -/
def words : List String := ["True", "False", "None"]

mutual

/-- A literal at the start of some pieces; `fuel` bounds the depth. -/
def read? : Nat → List Lexeme → Option (Literal × List Lexeme)
  | 0, _ => none
  | fuel + 1, lexemes => do
    let (left, rest) ← readSigned? fuel lexemes
    match rest with
    | .mark '+' :: more | .mark '-' :: more => do
      let (right, rest) ← readPart? fuel more
      let sum ← sum? left right
      some (sum, rest)
    | _ => some (left, rest)

/-- A part of a sum with at most one sign. -/
def readSigned? : Nat → List Lexeme → Option (Literal × List Lexeme)
  | 0, _ => none
  | fuel + 1, lexemes =>
    match lexemes with
    | .mark '+' :: more | .mark '-' :: more => do
      let (part, rest) ← readPart? fuel more
      let signed ← signed? part
      some (signed, rest)
    | _ => readPart? fuel lexemes

/-- A literal that is no sum and has no sign. -/
def readPart? : Nat → List Lexeme → Option (Literal × List Lexeme)
  | 0, _ => none
  | fuel + 1, lexemes =>
    match lexemes with
    | .number isImaginary :: rest => some (if isImaginary then .imaginary else .real, rest)
    | .quoted isBytes :: rest =>
      match afterQuoted isBytes rest with
      | .quoted _ :: _ => none
      | rest => some (.other true, rest)
    | .dots :: rest => some (.other true, rest)
    | .word "set" :: .mark '(' :: .mark ')' :: rest => some (.other false, rest)
    | .word name :: rest => if words.contains name then some (.other true, rest) else none
    | .mark '(' :: .mark ')' :: rest => some (.other true, rest)
    | .mark '(' :: more => do
      let (items, isTuple, rest) ← readItems? fuel ')' more
      match items, isTuple with
      | [item], false => some (item, rest)
      | items, _ => some (tuple items, rest)
    | .mark '\x7b' :: .mark '\x7d' :: rest => some (.other false, rest)
    | .mark '\x7b' :: more => do
      let (item, rest) ← read? fuel more
      if !item.isHashable then none
      else match rest with
        | .mark ':' :: _ => readPairs? fuel more
        | _ => do
          let (items, _, rest) ← readItems? fuel '\x7d' more
          if items.all isHashable then some (.other false, rest) else none
    | _ => none

/-- Literals with commas between them up to a closing mark, and whether there is a comma. -/
def readItems? (fuel : Nat) (closing : Char) (lexemes : List Lexeme) :
    Option (List Literal × Bool × List Lexeme) :=
  match fuel with
  | 0 => none
  | fuel + 1 => do
    let (item, rest) ← read? fuel lexemes
    match rest with
    | .mark ',' :: .mark c :: more =>
      if c == closing then some ([item], true, more)
      else do
        let (items, _, rest) ← readItems? fuel closing (.mark c :: more)
        some (item :: items, true, rest)
    | .mark ',' :: more => do
      let (items, _, rest) ← readItems? fuel closing more
      some (item :: items, true, rest)
    | .mark c :: more => if c == closing then some ([item], false, more) else none
    | _ => none

/-- A table after its opening brace. -/
def readPairs? : Nat → List Lexeme → Option (Literal × List Lexeme)
  | 0, _ => none
  | fuel + 1, lexemes => do
    let (key, rest) ← read? fuel lexemes
    match rest with
    | .mark ':' :: more => do
      let (_, rest) ← read? fuel more
      if !key.isHashable then none
      else match rest with
        | .mark '\x7d' :: rest => some (.other false, rest)
        | .mark ',' :: .mark '\x7d' :: rest => some (.other false, rest)
        | .mark ',' :: rest => readPairs? fuel rest
        | _ => none
    | _ => none

end

/-- Literals with commas between them up to the end; `fuel` bounds their number. -/
def areListed : Nat → List Lexeme → Bool
  | 0, _ => false
  | fuel + 1, lexemes =>
    match read? (4 * lexemes.length + 4) lexemes with
    | some (_, []) => true
    | some (_, [.mark ',']) => true
    | some (_, .mark ',' :: more) => areListed fuel more
    | _ => false

end Literal

/-- Whether a text is a literal, or several with commas between them. -/
def isLiteral (text : List Char) : Bool :=
  match Lexeme.ofText? (Text.unifyBreaks text) with
  | some lexemes => !text.contains (Char.ofNat 0) && Literal.areListed (lexemes.length + 1) lexemes
  | none => false

end Ambient.Console
