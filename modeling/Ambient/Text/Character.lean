/-
  Ambient.Text.Character

  Classes of characters: blanks, letters and numbers, digits, upper-case and printable characters.
  Below 128 each class is decided by arithmetic alone; the tables serve the rest of Unicode.
-/
import Ambient.Text.WordTable
import Ambient.Text.PrintTable
import Ambient.Text.DigitTable
import Ambient.Text.CaseTable

namespace Ambient.Text

/-- Whether a code point lies in one of the inclusive ranges. -/
def inRanges (ranges : List (Nat × Nat)) (n : Nat) : Bool :=
  ranges.any fun (first, last) => first ≤ n && n ≤ last

/-! ## Blanks -/

/-- A blank is a separator, a line break of any kind or a control character that separates. -/
def isBlank (c : Char) : Bool :=
  let n := c.toNat
  (9 ≤ n && n ≤ 13) || (28 ≤ n && n ≤ 32) || n == 0x85 || n == 0xA0 || n == 0x1680 ||
    (0x2000 ≤ n && n ≤ 0x200A) || n == 0x2028 || n == 0x2029 || n == 0x202F || n == 0x205F ||
    n == 0x3000

/-- A space or a tab, the blanks that can end a line without being a line break. -/
def isSpaceOrTab (c : Char) : Bool :=
  c == ' ' || c == '\t'

/-! ## ASCII classes -/

/-- One of `a` to `z`. -/
def isAsciiLower (c : Char) : Bool :=
  'a'.toNat ≤ c.toNat && c.toNat ≤ 'z'.toNat

/-- One of `A` to `Z`. -/
def isAsciiUpper (c : Char) : Bool :=
  'A'.toNat ≤ c.toNat && c.toNat ≤ 'Z'.toNat

/-- One of `0` to `9`. -/
def isAsciiDigit (c : Char) : Bool :=
  '0'.toNat ≤ c.toNat && c.toNat ≤ '9'.toNat

/-- An ASCII letter of either case. -/
def isAsciiLetter (c : Char) : Bool :=
  isAsciiLower c || isAsciiUpper c

/-! ## Unicode classes -/

/-- A letter, a digit of any script or another character with a numeric value. -/
def isLetterOrNumber (c : Char) : Bool :=
  if c.toNat < 128 then isAsciiLetter c || isAsciiDigit c else inRanges wordRanges c.toNat

/-- A character of a word: a letter, a number or the underscore. -/
def isWordChar (c : Char) : Bool :=
  isLetterOrNumber c || c == '_'

/-- An upper-case character. -/
def isUpper (c : Char) : Bool :=
  if c.toNat < 128 then isAsciiUpper c else inRanges upperRanges c.toNat

/-- A character that has letter case, be it upper, lower or title case. -/
def isCased (c : Char) : Bool :=
  if c.toNat < 128 then isAsciiLetter c else inRanges casedRanges c.toNat

/-- A mark or punctuation that is passed over when the neighbouring letters of a character are
sought. -/
def isSkipped (c : Char) : Bool :=
  if c.toNat < 128 then c == '\'' || c == '.' || c == ':' || c == '^' || c == '\x60'
  else inRanges skippedRanges c.toNat

/-- The value of a decimal digit of any script. -/
def decimalValue? (c : Char) : Option Nat :=
  if c.toNat < 128 then
    if isAsciiDigit c then some (c.toNat - '0'.toNat) else none
  else
    (decimalZeros.find? fun start => start ≤ c.toNat && c.toNat ≤ start + 9).map (c.toNat - ·)

/-- A digit of any script, with or without place value. -/
def isDigit (c : Char) : Bool :=
  (decimalValue? c).isSome || inRanges otherDigitRanges c.toNat

/-- A character that is written as itself inside quotes. -/
def isPrintable (c : Char) : Bool :=
  if c.toNat < 128 then 32 ≤ c.toNat && c.toNat < 127 else !inRanges unprintableRanges c.toNat

end Ambient.Text
