/-
  Ambient.Console.Lexeme

  The pieces of a literal: numbers, quoted texts, words and marks. Blanks, comments and joined lines
  do not count; a line break ends a literal unless it stands in parentheses or braces. Literals occur
  as parameters in the markup of the renderer from outside (`Ambient.Console`), and only there.
-/
import Ambient.Text.Breaks
import Ambient.Text.Case
import Ambient.Text.CharacterName
import Ambient.Text.Integer
import Ambient.Text.Split

namespace Ambient.Console

/-- A piece of a literal. -/
inductive Lexeme where
  | number (isImaginary : Bool)
  /-- A quoted text, of bytes or of characters. -/
  | quoted (isBytes : Bool)
  | word (name : String)
  | dots
  | mark (c : Char)
  deriving DecidableEq, Repr

namespace Lexeme

/-! ## Numbers -/

/-- The number of characters of an exponent at the start of a text. -/
def exponentLength (text : List Char) : Nat :=
  match text with
  | c :: rest =>
    if c == 'e' || c == 'E' then
      let sign := if rest.head? == some '-' || rest.head? == some '+' then 1 else 0
      let digits := Text.digitRun 10 (rest.drop sign)
      if (digits.head?.map Text.isAsciiDigit).getD false then 1 + sign + digits.length else 0
    else 0
  | [] => 0

/-- The number of characters of a point with its places at the start of a text. -/
def fractionLength (text : List Char) : Nat :=
  match text with
  | '.' :: c :: rest => if Text.isAsciiDigit c then 1 + (Text.digitRun 10 (c :: rest)).length else 1
  | ['.'] => 1
  | _ => 0

/-- Whether digits may stand as an integer: a first zero is followed by zeros only, and there are not
too many of them. -/
def isInteger (digits : List Char) : Bool :=
  let digits := digits.filter (· != '_')
  digits.length ≤ Text.maxDigits && (digits.head? != some '0' || digits.all (· == '0'))

/-- The base that a letter after a zero tells. -/
def baseOf? (c : Char) : Option Nat :=
  [('x', 16), ('X', 16), ('o', 8), ('O', 8), ('b', 2), ('B', 2)].lookup c

/-- The number at the start of a text, with the number of its characters. -/
def decimal? (text : List Char) : Option (Lexeme × Nat) :=
  let whole := if text.head? == some '.' then [] else Text.digitRun 10 text
  let fraction := fractionLength (text.drop whole.length)
  let exponent := exponentLength (text.drop (whole.length + fraction))
  let length := whole.length + fraction + exponent
  if (text.drop length).head?.any fun c => c == 'j' || c == 'J' then
    some (.number true, length + 1)
  else if fraction + exponent != 0 || isInteger whole then some (.number false, length)
  else none

/-- The number at the start of a text, with the number of its characters. No letter follows it. -/
def number? (text : List Char) : Option (Lexeme × Nat) :=
  let found : Option (Lexeme × Nat) :=
    match text with
    | '0' :: letter :: rest =>
      match baseOf? letter with
      | some base =>
        let digits := Text.digitRun base rest
        if digits.isEmpty then none else some (.number false, digits.length + 2)
      | none => decimal? text
    | _ => decimal? text
  found.filter fun (_, length) => !(text.drop length).head?.any fun c =>
    Text.isWordChar c || c.toNat ≥ 0x80

/-! ## Quoted texts -/

/-- How a quoted text is read: its quote, whether three of them are on each side, whether a backslash
is an ordinary character, and whether it is of bytes. -/
structure Quoting where
  quote : Char
  isTriple : Bool
  isRaw : Bool
  isBytes : Bool

/-- The letters before a quoted text that tell how it is read. -/
def quotingLetters : List (String × (Bool × Bool)) :=
  [("", (false, false)), ("u", (false, false)), ("r", (true, false)), ("b", (false, true)),
   ("br", (true, true)), ("rb", (true, true))]

/-- The number of hexadecimal digits that follow the letter of an escape. -/
def hexWidth (isBytes : Bool) (c : Char) : Nat :=
  if c == 'x' then 2
  else if c == 'u' && !isBytes then 4
  else if c == 'U' && !isBytes then 8
  else 0

/-- Whether what follows a backslash makes an escape. -/
def isEscape (isBytes : Bool) (c : Char) (rest : List Char) : Bool :=
  if c == 'N' && !isBytes then ((Text.nameInBraces? rest).bind Text.charOfName?).isSome
  else
    let digits := rest.take (hexWidth isBytes c)
    digits.length == hexWidth isBytes c && digits.all (Text.isDigitOf 16) &&
      Text.valueIn 16 digits ≤ 0x10FFFF

/-- The number of characters of a quoted text after its first quotes, with the last ones, if it ends.
A line break stands only between triple quotes or after a backslash. -/
def bodyLength? (q : Quoting) : List Char → Option Nat
  | [] => none
  | ['\\'] => none
  | '\\' :: c :: rest =>
    if (q.isRaw || isEscape q.isBytes c rest) && !(q.isBytes && c.toNat ≥ 0x80) then
      (bodyLength? q rest).map (· + 2)
    else none
  | c :: rest =>
    if c == q.quote && !q.isTriple then some 1
    else if c == q.quote && [q.quote, q.quote].isPrefixOf rest then some 3
    else if c == '\n' && !q.isTriple then none
    else if q.isBytes && c.toNat ≥ 0x80 then none
    else (bodyLength? q rest).map (· + 1)

/-- The quoted text after some letters, with the number of its characters. -/
def quoted? (letters : List Char) (text : List Char) : Option (Lexeme × Nat) :=
  match quotingLetters.lookup (String.ofList (Text.lower letters)), text with
  | some (isRaw, isBytes), quote :: rest =>
    let isTriple := [quote, quote].isPrefixOf rest
    let opening := if isTriple then 3 else 1
    (bodyLength? { quote, isTriple, isRaw, isBytes } (text.drop opening)).map fun length =>
      (.quoted isBytes, opening + length)
  | _, _ => none

/-! ## Literals -/

/-- The marks of a literal. -/
def isMark (c : Char) : Bool :=
  ['(', ')', '\x7b', '\x7d', ',', ':', '+', '-'].contains c

/-- A quote of a text. -/
def isQuote (c : Char) : Bool :=
  c == '\'' || c == '"'

/-- The piece at the start of a text, with the number of its characters. -/
def first? (text : List Char) : Option (Lexeme × Nat) :=
  match text with
  | [] => none
  | c :: rest =>
    let letters := text.takeWhile Text.isWordChar
    let after := text.drop letters.length
    if Text.isAsciiDigit c || (c == '.' && rest.head?.any Text.isAsciiDigit) then number? text
    else if after.head?.any isQuote then
      (quoted? letters after).map fun (lexeme, length) => (lexeme, letters.length + length)
    else if !letters.isEmpty then some (.word (String.ofList letters), letters.length)
    else if ['.', '.', '.'].isPrefixOf text then some (.dots, 3)
    else if isMark c then some (.mark c, 1)
    else none

/-- The text from its first piece on, if the line of that piece is not indented. Blanks, comments and
lines that hold nothing else are passed over. A form feed takes the indentation of a line back, but
not what was there before the line was joined with the next one, which `isKept` tells. -/
def afterVoid? (isIndented isKept : Bool) (text : List Char) : Option (List Char) :=
  match text with
  | [] => some []
  | '\\' :: '\n' :: rest =>
    if rest.isEmpty then none else afterVoid? isIndented (isKept || isIndented) rest
  | c :: rest =>
    if c == '\n' then afterVoid? false false rest
    else if c == '#' then
      afterVoid? isIndented isKept (rest.drop (rest.takeWhile (· != '\n')).length)
    else if c == ' ' || c == '\t' then afterVoid? true isKept rest
    else if c.toNat == 12 then afterVoid? false isKept rest
    else if isIndented || isKept then none
    else some (c :: rest)
termination_by text.length
decreasing_by all_goals (simp only [List.length_cons, List.length_drop]; omega)

/-- The greatest number of parentheses and braces inside each other. -/
def maxDepth : Nat := 200

/-- The depth after a piece. -/
def depthAfter (depth : Nat) : Lexeme → Nat
  | .mark '(' => depth + 1
  | .mark '\x7b' => depth + 1
  | .mark ')' => depth - 1
  | .mark '\x7d' => depth - 1
  | _ => depth

/-- The pieces of a text from the first one on, which stands in some parentheses and braces. -/
def lexemes? (depth : Nat) (text : List Char) : Option (List Lexeme) :=
  match text with
  | [] => some []
  | '\\' :: '\n' :: rest => if rest.isEmpty then none else lexemes? depth rest
  | c :: rest =>
    if c == ' ' || c == '\t' || c.toNat == 12 then lexemes? depth rest
    else if c == '\n' then
      if depth == 0 then (if afterVoid? false false rest == some [] then some [] else none)
      else lexemes? depth rest
    else if c == '#' then lexemes? depth (rest.drop (rest.takeWhile (· != '\n')).length)
    else
      match first? (c :: rest) with
      | none => none
      | some (lexeme, length) =>
        let depth := depthAfter depth lexeme
        if maxDepth < depth then none
        else (lexemes? depth (rest.drop (length - 1))).map (lexeme :: ·)
termination_by text.length
decreasing_by all_goals (simp only [List.length_cons, List.length_drop]; omega)

/-- The pieces of a text. -/
def ofText? (text : List Char) : Option (List Lexeme) :=
  (afterVoid? false false text).bind (lexemes? 0)

end Lexeme

end Ambient.Console
