/-
  Ambient.Number.Double

  The numbers of IEEE double precision as exact data: a sign, a significand below `2 ^ 53` and a
  power of two. Every operation is integer arithmetic, so that statements about written and read
  numbers can be proved. Powers are those of `Nat.pow`, whatever else is imported.
-/

namespace Ambient

/-- The first number that takes more than 53 bits. -/
def significandLimit : Nat := Nat.pow 2 53

/-- The least number of 53 bits. -/
def leadingBit : Nat := Nat.pow 2 52

/-- The one form in which a significand and a power of two are written: 53 bits at most, and all 53
of them unless the exponent is the least one. -/
def IsCanonical (significand : Nat) (exponent : Int) : Prop :=
  significand < significandLimit ∧ -1074 ≤ exponent ∧ exponent ≤ 971 ∧
    (leadingBit ≤ significand ∨ exponent = -1074)

instance (significand : Nat) (exponent : Int) : Decidable (IsCanonical significand exponent) :=
  inferInstanceAs (Decidable (_ ∧ _ ∧ _ ∧ (_ ∨ _)))

/-- The distance of a finite number from zero, `significand * 2 ^ exponent`. -/
structure Magnitude where
  significand : Nat
  exponent : Int
  canonical : IsCanonical significand exponent
  deriving DecidableEq, Repr

/-- A double-precision number. -/
inductive Double where
  | nan
  | infinity (negative : Bool)
  | finite (negative : Bool) (magnitude : Magnitude)
  deriving DecidableEq, Repr

namespace Magnitude

/-- The magnitude of a significand and an exponent in canonical form. -/
def of? (significand : Nat) (exponent : Int) : Option Magnitude :=
  if h : IsCanonical significand exponent then some ⟨significand, exponent, h⟩ else none

/-- No distance from zero. -/
def zero : Magnitude := ⟨0, -1074, by decide⟩

/-- Whether there is no distance from zero. -/
def isZero (x : Magnitude) : Bool := x.significand == 0

/-- The value as a pair of numerator and denominator. -/
def ratio (x : Magnitude) : Nat × Nat :=
  if x.exponent < 0 then (x.significand, Nat.pow 2 x.exponent.natAbs)
  else (x.significand * Nat.pow 2 x.exponent.natAbs, 1)

end Magnitude

namespace Double

/-- The least exponent, that of the numbers next to zero. -/
def minExponent : Int := -1074

/-- Zero with a sign. -/
def zero (negative : Bool) : Double := .finite negative .zero

/-! ## Rounding -/

/-- The quotient rounded to the nearest integer, a tie to the even neighbour. -/
def roundDiv (num den : Nat) : Nat :=
  let q := num / den
  let twice := 2 * (num % den)
  if twice < den then q
  else if den < twice then q + 1
  else q + q % 2

/-- `num / (den * 2 ^ e)`, as a pair of numerator and denominator. -/
def scaled (num den : Nat) (e : Int) : Nat × Nat :=
  if e < 0 then (num * Nat.pow 2 e.natAbs, den) else (num, den * Nat.pow 2 e.natAbs)

/-- The exponent that leaves a significand of 53 bits, or the least one. -/
def exponentFor (num den : Nat) : Int :=
  let e : Int := Int.ofNat num.log2 - Int.ofNat den.log2 - 53
  let (n, d) := scaled num den e
  let e := if significandLimit ≤ n / d then e + 1 else e
  if e < minExponent then minExponent else e

/-- The double nearest to `± num / den`, a tie to the even significand; infinity if it has too large
an exponent. -/
def ofRatio (negative : Bool) (num den : Nat) : Double :=
  if num == 0 then zero negative
  else
    let e := exponentFor num den
    let (n, d) := scaled num den e
    let m := roundDiv n d
    let (m, e) := if m == significandLimit then (leadingBit, e + 1) else (m, e)
    match Magnitude.of? m e with
    | some magnitude => .finite negative magnitude
    | none => .infinity negative

/-- The number of decimal digits of a positive number. -/
def digitCount (n : Nat) : Nat :=
  (Nat.toDigits 10 n).length

/-- The double nearest to `± digits * 10 ^ exponent`. -/
def ofDecimal (negative : Bool) (digits : Nat) (exponent : Int) : Double :=
  let magnitude := Int.ofNat (digitCount digits) + exponent
  if digits == 0 || magnitude < -330 then zero negative
  else if 310 < magnitude then .infinity negative
  else if exponent < 0 then ofRatio negative digits (Nat.pow 10 exponent.natAbs)
  else ofRatio negative (digits * Nat.pow 10 exponent.natAbs) 1

/-! ## Values -/

/-- Neither zero nor negative zero. -/
def isNonzero : Double → Bool
  | .finite _ x => !x.isZero
  | _ => true

/-- The number with the other sign. -/
def negated : Double → Double
  | .finite negative x => .finite (!negative) x
  | .infinity negative => .infinity (!negative)
  | .nan => .nan

/-- Less than zero. -/
def isNegative : Double → Bool
  | .finite negative x => negative && !x.isZero
  | .infinity negative => negative
  | .nan => false

/-- Whether the number is an integer with the given value. -/
def equalsInt : Double → Int → Bool
  | .finite negative x, n =>
    let (num, den) := x.ratio
    num == n.natAbs * den && (n == 0 || negative == decide (n < 0))
  | _, _ => false

/-- Equality of value: the two zeros are the same number, and the undefined number is itself. -/
def sameValue : Double → Double → Bool
  | .finite s x, .finite s' y => (x.isZero && y.isZero) || (s == s' && x == y)
  | x, y => x == y

/-- The integer part of a finite number. -/
def truncate? : Double → Option Int
  | .finite negative x =>
    let (num, den) := x.ratio
    let n : Int := Int.ofNat (num / den)
    some (if negative then -n else n)
  | _ => none

end Double

end Ambient
