/-
  Ambient.Number.Shortest

  The shortest decimal that reads back: of all decimals that round to a given double, one with the
  fewest digits, and among those the nearest. A number is positional up to sixteen digits before
  the point and down to four places after it, and has an exponent of at least two digits elsewhere.
-/
import Ambient.Number.Double

namespace Ambient.Double

/-- A decimal `digits * 10 ^ exponent`. -/
structure Decimal where
  digits : Nat
  exponent : Int
  deriving DecidableEq, Repr

/-! ## Digits -/

/-- `num / den` in units of `10 ^ e`, as a pair of numerator and denominator. -/
def inUnitsOf (num den : Nat) (e : Int) : Nat × Nat :=
  if e < 0 then (num * Nat.pow 10 e.natAbs, den) else (num, den * Nat.pow 10 e.natAbs)

/-- The least `p` with `num / den < 10 ^ p`, found upwards from an estimate that is too small. -/
def decimalPoint (num den : Nat) : Nat → Int → Int
  | 0, p => p
  | fuel + 1, p =>
    let (n, d) := inUnitsOf num den p
    if n < d then p else decimalPoint num den fuel (p + 1)

/-- The estimate of the position of the decimal point from the sizes in bits. -/
def pointEstimate (num den : Nat) : Int :=
  (Int.ofNat num.log2 - Int.ofNat den.log2 - 1) * 30103 / 100000 - 1

/-- The nearest decimal on the grid of `10 ^ e` that reads back as the positive double `x`. -/
def onGrid? (x : Double) (num den : Nat) (e : Int) : Option Decimal :=
  let (n, d) := inUnitsOf num den e
  let below := n / d
  let readsBack (c : Nat) : Bool := ofDecimal false c e == x
  let above := below + 1
  let twice := 2 * (n % d)
  let (first, second) :=
    if twice < d || (twice == d && below % 2 == 0) then (below, above) else (above, below)
  if readsBack first then some ⟨first, e⟩
  else if readsBack second then some ⟨second, e⟩
  else none

/-- The first grid of at most `count` further digits, coarse ones first, that has a decimal reading
back as `x`. -/
def firstGrid? (x : Double) (num den : Nat) : Nat → Int → Option Decimal
  | 0, _ => none
  | count + 1, e =>
    match onGrid? x num den e with
    | some d => some d
    | none => firstGrid? x num den count (e - 1)

/-- A double is a decimal itself, if a long one. -/
def exactDecimal (x : Magnitude) : Decimal :=
  if x.exponent < 0 then ⟨x.significand * Nat.pow 5 x.exponent.natAbs, x.exponent⟩
  else ⟨x.significand * Nat.pow 2 x.exponent.natAbs, 0⟩

/-- The shortest decimal that reads back as a positive double. -/
def shortest (x : Magnitude) : Decimal :=
  let (num, den) := x.ratio
  let p := decimalPoint num den 400 (pointEstimate num den)
  (firstGrid? (.finite false x) num den 17 (p - 1)).getD (exactDecimal x)

/-! ## Notation -/

/-- The decimal without zeros at its end. -/
def Decimal.normalize (d : Decimal) : Nat → Decimal
  | 0 => d
  | fuel + 1 =>
    if d.digits != 0 && d.digits % 10 == 0 then
      Decimal.normalize ⟨d.digits / 10, d.exponent + 1⟩ fuel
    else d

/-- An exponent with its sign and at least two digits. -/
def exponentText (e : Int) : String :=
  let digits := toString e.natAbs
  (if e < 0 then "-" else "+") ++ (if digits.length < 2 then "0" ++ digits else digits)

/-- Positional or exponential notation of a decimal. -/
def Decimal.text (d : Decimal) : String :=
  let digits := (toString d.digits).toList
  let count := digits.length
  let point := Int.ofNat count + d.exponent
  if point ≤ -4 || 16 < point then
    let fraction := digits.drop 1
    String.ofList (digits.take 1) ++
      (if fraction.isEmpty then "" else "." ++ String.ofList fraction) ++
      "e" ++ exponentText (point - 1)
  else if point ≤ 0 then
    "0." ++ String.ofList (List.replicate point.natAbs '0') ++ String.ofList digits
  else
    let whole := point.toNat
    if count ≤ whole then
      String.ofList digits ++ String.ofList (List.replicate (whole - count) '0') ++ ".0"
    else String.ofList (digits.take whole) ++ "." ++ String.ofList (digits.drop whole)

/-- The text of a double; the words for the undefined number and for infinity are given. -/
def textWith (nanWord infinityWord : String) : Double → String
  | .nan => nanWord
  | .infinity negative => (if negative then "-" else "") ++ infinityWord
  | .finite negative x =>
    (if negative then "-" else "") ++
      if x.isZero then "0.0" else ((shortest x).normalize 400).text

end Ambient.Double
