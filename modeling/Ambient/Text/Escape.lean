/-
  Ambient.Text.Escape

  Escapes in quoted texts. A backslash before certain characters stands for another character, before
  a line feed for nothing, and before any other character for itself. Characters can be told by
  their numbers and by their names; those beyond ASCII count as if their numbers were written out.
-/
import Ambient.Text.CharacterName
import Ambient.Text.Quoted

namespace Ambient.Text

/-! ## Writing numbers out -/

/-- A text with an escape in place of every character beyond ASCII. -/
def asciiEscaped (text : List Char) : List Char :=
  text.flatMap fun c =>
    if c.toNat < 0x80 then [c]
    else if c.toNat < 0x100 then '\\' :: 'x' :: hexPadded 2 c.toNat
    else if c.toNat < 0x10000 then '\\' :: 'u' :: hexPadded 4 c.toNat
    else '\\' :: 'U' :: hexPadded 8 c.toNat

/-! ## Reading escapes -/

/-- Why an escape cannot be read. -/
inductive EscapeFault where
  /-- Digits are missing after a letter. -/
  | truncated (letter : Char)
  /-- There is no character with the number. -/
  | noCharacter
  /-- The braces with the name of a character are missing or empty. -/
  | malformedName
  | unknownName
  /-- Nothing follows the backslash. -/
  | unfinished
  deriving DecidableEq, Repr

/-- What a backslash before a character stands for, if neither digits nor a name belong
to it. -/
def plainEscape? (c : Char) : Option (List Char) :=
  if c == '\\' || c == '\'' || c == '"' then some [c]
  else if c == '\n' then some []
  else if c == 'a' then some [Char.ofNat 7]
  else if c == 'b' then some [Char.ofNat 8]
  else if c == 't' then some ['\t']
  else if c == 'n' then some ['\n']
  else if c == 'v' then some [Char.ofNat 11]
  else if c == 'f' then some [Char.ofNat 12]
  else if c == 'r' then some ['\r']
  else none

/-- The number of hexadecimal digits that belong to an escape. -/
def hexWidth? (c : Char) : Option Nat :=
  if c == 'x' then some 2 else if c == 'u' then some 4 else if c == 'U' then some 8 else none

/-- The words for the fault of an escape. -/
def EscapeFault.message : EscapeFault → String
  | .truncated letter =>
    let digits := List.replicate ((hexWidth? letter).getD 0) 'X'
    "truncated \\" ++ String.ofList (letter :: digits) ++ " escape"
  | .noCharacter => "illegal Unicode character"
  | .malformedName => "malformed \\N character escape"
  | .unknownName => "unknown Unicode character name"
  | .unfinished => "\\ at end of string"

/-- The character that hexadecimal digits after a letter denote, all of which must be there. -/
def hexChar (letter : Char) (width : Nat) (text : List Char) : Except EscapeFault Char :=
  let digits := text.take width
  if digits.length == width && digits.all (isDigitOf 16) then
    let n := valueIn 16 digits
    if n.isValidChar then .ok (Char.ofNat n) else .error .noCharacter
  else .error (.truncated letter)

/-- The character whose name in braces starts a text, and the number of characters of the name with
its braces. -/
def namedChar (text : List Char) : Except EscapeFault (Char × Nat) :=
  match nameInBraces? text with
  | none => .error .malformedName
  | some name =>
    match charOfName? name with
    | some named => .ok (named, name.length + 2)
    | none => .error .unknownName

/-- What a backslash before a character stands for, and the number of characters of the text after
them that belong to it. -/
def escapeAt (c : Char) (rest : List Char) : Except EscapeFault (List Char × Nat) :=
  match plainEscape? c, hexWidth? c with
  | some plain, _ => .ok (plain, 0)
  | none, some width => (hexChar c width rest).map fun decoded => ([decoded], width)
  | none, none =>
    if c == 'N' then (namedChar rest).map fun (named, length) => ([named], length)
    else if isDigitOf 8 c then
      let more := (rest.take 2).takeWhile (isDigitOf 8)
      .ok ([Char.ofNat (valueIn 8 (c :: more))], more.length)
    else .ok (['\\', c], 0)

/-- The text that a text with escapes stands for. -/
def unescaped (text : List Char) : Except EscapeFault (List Char) :=
  match text with
  | [] => .ok []
  | ['\\'] => .error .unfinished
  | '\\' :: c :: rest => do
    let (plain, length) ← escapeAt c rest
    .ok (plain ++ (← unescaped (rest.drop length)))
  | c :: rest => do .ok (c :: (← unescaped rest))
termination_by text.length
decreasing_by all_goals (simp only [List.length_cons, List.length_drop]; omega)

end Ambient.Text
