/-
  Ambient.Text.Digits

  Digits of several bases, the numbers that runs of them denote, and runs in which single underscores
  part groups of digits.
-/
import Ambient.Text.Character

namespace Ambient.Text

/-! ## Digits -/

/-- The value of a hexadecimal digit of either case. -/
def hexValue? (c : Char) : Option Nat :=
  if isAsciiDigit c then some (c.toNat - '0'.toNat)
  else if 'a'.toNat ≤ c.toNat && c.toNat ≤ 'f'.toNat then some (c.toNat - 'a'.toNat + 10)
  else if 'A'.toNat ≤ c.toNat && c.toNat ≤ 'F'.toNat then some (c.toNat - 'A'.toNat + 10)
  else none

/-- A digit of a base of at most sixteen. -/
def isDigitOf (base : Nat) (c : Char) : Bool :=
  ((hexValue? c).map (decide <| · < base)).getD false

/-! ## Numbers -/

/-- The number that digits denote in a base; anything between them is passed over. -/
def valueIn (base : Nat) (digits : List Char) : Nat :=
  (digits.filterMap hexValue?).foldl (fun n d => n * base + d) 0

/-- The number that a run of decimal digits denotes. -/
def digitsValue (digits : List Char) : Nat :=
  digits.foldl (fun n c => n * 10 + (c.toNat - '0'.toNat)) 0

/-! ## Groups of digits -/

/-- The longest run of digits at the start of a text. A single underscore between two digits belongs
to it. -/
def digitRun (base : Nat) : List Char → List Char
  | [] => []
  | c :: rest =>
    if isDigitOf base c then c :: digitRun base rest
    else if c == '_' && (rest.head?.map (isDigitOf base)).getD false then c :: digitRun base rest
    else []

end Ambient.Text
