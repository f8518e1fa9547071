/-
  Ambient.Text.Integer

  Reading an integer: blanks around it, an optional sign, decimal digits of any script with single
  underscores between them, and at most 4300 digits.
-/
import Ambient.Text.Edges

namespace Ambient.Text

/-- The longest run of digits that is read as a number. -/
def maxDigits : Nat := 4300

/-- A blank of ASCII that may surround an integer. -/
def isMargin (c : Char) : Bool :=
  c == ' ' || (9 ≤ c.toNat && c.toNat ≤ 13)

/-- The ASCII character that stands for a character of another script: a space for a blank and the
digit for a decimal digit. -/
def asciiOf? (c : Char) : Option Char :=
  if c.toNat < 127 then some c
  else if isBlank c then some ' '
  else (decimalValue? c).map fun d => Char.ofNat ('0'.toNat + d)

/-- The value and the number of digits of a run of digits that may hold single underscores between
digits; `afterDigit` tells whether a digit stands just before. -/
def digitRun? (value count : Nat) (afterDigit : Bool) : List Char → Option (Nat × Nat)
  | [] => if afterDigit then some (value, count) else none
  | c :: rest =>
    if isAsciiDigit c then digitRun? (value * 10 + (c.toNat - '0'.toNat)) (count + 1) true rest
    else if c == '_' && afterDigit then digitRun? value count false rest
    else none

/-- An unsigned integer of at most `maxDigits` digits. -/
def natural? (text : List Char) : Option Nat := do
  let (value, count) ← digitRun? 0 0 false text
  if count ≤ maxDigits then some value else none

/-- The integer that a text denotes. -/
def integer? (text : List Char) : Option Int := do
  let ascii ← text.mapM asciiOf?
  match dropEndWhile isMargin (ascii.dropWhile isMargin) with
  | '-' :: digits => (natural? digits).map fun n => -(n : Int)
  | '+' :: digits => (natural? digits).map Int.ofNat
  | digits => (natural? digits).map Int.ofNat

end Ambient.Text
