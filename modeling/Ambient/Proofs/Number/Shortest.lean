/-
  Ambient.Proofs.Number.Shortest

  Shortest decimals read back. A decimal reads as the one with a zero more and a lesser exponent does
  (`ofDecimal_mul_ten`), so its form does not matter. What is found on a grid has been tried, and
  where no grid has a decimal the exact one is read, which is in reach of the limits for the position
  of the point. So the decimal of a double is read as that double (`ofDecimal_shortest`).
-/
import Ambient.Number.Shortest
import Ambient.Proofs.Number.Rounding

namespace Ambient.Double

variable {negative : Bool} {digits : Nat} {exponent : Int}

/-! ## Forms of a decimal -/

theorem digitCount_mul_ten (h : 0 < digits) : digitCount (digits * 10) = digitCount digits + 1 := by
  have hten : ¬ digits * 10 < 10 := by omega
  rw [digitCount, digitCount, Nat.toDigits_eq_if (by decide), if_neg hten, List.length_append,
    Nat.mul_div_cancel _ (by decide)]
  rfl

/-- The double next to a decimal in reach. -/
def ofPlaced (negative : Bool) (digits : Nat) (exponent : Int) : Double :=
  if exponent < 0 then ofRatio negative digits (Nat.pow 10 exponent.natAbs)
  else ofRatio negative (digits * Nat.pow 10 exponent.natAbs) 1

theorem ofPlaced_neg (negative : Bool) (digits k : Nat) :
    ofPlaced negative digits (-(k : Int)) = ofRatio negative digits ((5 * 2) ^ k) := by
  rw [ofPlaced]
  split
  · rw [Int.natAbs_neg, Int.natAbs_natCast]
    rfl
  · have hk : k = 0 := by omega
    subst hk
    exact congrArg (ofRatio negative · 1) (Nat.mul_one _)

theorem ofPlaced_mul_ten (negative : Bool) (digits : Nat) (exponent : Int) :
    ofPlaced negative (digits * 10) exponent = ofPlaced negative digits (exponent + 1) := by
  rw [ofPlaced, ofPlaced]
  -- a power of ten is the denominator on both sides, only on the left, or on neither
  rcases lt_trichotomy exponent (-1) with h | rfl | h
  · obtain ⟨k, rfl⟩ : ∃ k : Nat, exponent = -((k : Int) + 2) := ⟨(-exponent - 2).toNat, by omega⟩
    have habs : (-((k : Int) + 2)).natAbs = k + 1 + 1 := by omega
    have habs' : (-((k : Int) + 2) + 1).natAbs = k + 1 := by omega
    rw [if_pos (by omega), if_pos (by omega), habs, habs']
    show ofRatio negative (digits * 10) (10 ^ (k + 1) * 10) = ofRatio negative digits (10 ^ (k + 1))
    rw [Nat.mul_comm digits, Nat.mul_comm _ 10]
    exact ofRatio_mul negative (by decide) digits (Nat.pow_pos (by decide))
  · show ofRatio negative (digits * 10) (10 * 1) = ofRatio negative (digits * 1) 1
    rw [Nat.mul_comm digits, Nat.mul_one digits]
    exact ofRatio_mul negative (by decide) digits Nat.one_pos
  · obtain ⟨k, rfl⟩ : ∃ k : Nat, exponent = (k : Int) := ⟨exponent.toNat, by omega⟩
    have habs : ((k : Int) + 1).natAbs = k + 1 := by omega
    rw [if_neg (by omega), if_neg (by omega), Int.natAbs_natCast, habs]
    show ofRatio negative (digits * 10 * 10 ^ k) 1 = ofRatio negative (digits * (10 ^ k * 10)) 1
    congr 1
    ring

/-- A zero more is an exponent less. -/
theorem ofDecimal_mul_ten (negative : Bool) (digits : Nat) (exponent : Int) :
    ofDecimal negative (digits * 10) exponent = ofDecimal negative digits (exponent + 1) := by
  rcases Nat.eq_zero_or_pos digits with rfl | hdigits
  · rfl
  · have hmagnitude : Int.ofNat (digitCount (digits * 10)) + exponent =
        Int.ofNat (digitCount digits) + (exponent + 1) := by
      rw [digitCount_mul_ten hdigits]
      simp only [Int.ofNat_eq_natCast]
      push_cast
      ring
    have hzero : (digits * 10 == 0) = (digits == 0) := by
      rw [beq_eq_false_iff_ne.mpr hdigits.ne', beq_eq_false_iff_ne.mpr (by omega)]
    have hplaced := ofPlaced_mul_ten negative digits exponent
    simp only [ofPlaced] at hplaced
    simp only [ofDecimal, hmagnitude, hzero, hplaced]

/-- Zeros at the end are exponent. -/
theorem ofDecimal_mul_pow (negative : Bool) (digits : Nat) (exponent : Int) (count : Nat) :
    ofDecimal negative (digits * 10 ^ count) exponent =
      ofDecimal negative digits (exponent + count) := by
  induction count generalizing exponent with
  | zero => simp
  | succ count ih =>
    rw [Nat.pow_succ, ← Nat.mul_assoc, ofDecimal_mul_ten, ih]
    congr 1
    push_cast
    ring

theorem ofDecimal_normalize (negative : Bool) (d : Decimal) (fuel : Nat) :
    ofDecimal negative (d.normalize fuel).digits (d.normalize fuel).exponent =
      ofDecimal negative d.digits d.exponent := by
  induction fuel generalizing d with
  | zero => rfl
  | succ fuel ih =>
    rw [Decimal.normalize]
    split
    · rename_i h
      have hten : d.digits = d.digits / 10 * 10 := by
        simp only [Bool.and_eq_true, beq_iff_eq] at h
        omega
      rw [ih, ← ofDecimal_mul_ten, ← hten]
    · rfl

/-! ## Signs -/

theorem ofRatio_of_false {num den : Nat} {x : Magnitude}
    (h : ofRatio false num den = .finite false x) (negative : Bool) :
    ofRatio negative num den = .finite negative x := by
  revert h
  simp only [ofRatio]
  split
  · intro h
    cases h
    rfl
  · split
    · intro h
      cases h
      rfl
    · intro h
      cases h

/-- A decimal with a sign reads as the double with that sign. -/
theorem ofDecimal_of_false {x : Magnitude} (h : ofDecimal false digits exponent = .finite false x)
    (negative : Bool) : ofDecimal negative digits exponent = .finite negative x := by
  revert h
  simp only [ofDecimal]
  split
  · intro h
    cases h
    rfl
  · split
    · intro h
      cases h
    · split
      · exact fun h => ofRatio_of_false h negative
      · exact fun h => ofRatio_of_false h negative

/-! ## Grids -/

/-- What is found on a grid reads back. -/
theorem ofDecimal_of_onGrid {x : Double} {num den : Nat} {e : Int} {d : Decimal}
    (h : onGrid? x num den e = some d) : ofDecimal false d.digits d.exponent = x := by
  -- whichever of the two neighbours is tried first
  have hneighbours : ∀ first second : Nat,
      (if ofDecimal false first e == x then some (⟨first, e⟩ : Decimal)
        else if ofDecimal false second e == x then some ⟨second, e⟩ else none) = some d →
      ofDecimal false d.digits d.exponent = x := by
    intro first second hfound
    split at hfound
    · rename_i hfirst
      cases hfound
      exact beq_iff_eq.mp hfirst
    · split at hfound
      · rename_i hsecond
        cases hfound
        exact beq_iff_eq.mp hsecond
      · cases hfound
  exact hneighbours _ _ h

theorem ofDecimal_of_firstGrid {x : Double} {num den count : Nat} {e : Int} {d : Decimal}
    (h : firstGrid? x num den count e = some d) : ofDecimal false d.digits d.exponent = x := by
  induction count generalizing e with
  | zero => cases h
  | succ count ih =>
    rw [firstGrid?] at h
    cases hgrid : onGrid? x num den e with
    | some found =>
      rw [hgrid] at h
      cases h
      exact ofDecimal_of_onGrid hgrid
    | none =>
      rw [hgrid] at h
      exact ih h

/-! ## Exact decimals -/

theorem digitCount_le {n k : Nat} (hk : 0 < k) (h : n < 10 ^ k) : digitCount n ≤ k :=
  (Nat.length_toDigits_le_iff (by decide) hk).mpr h

theorem digitCount_pos (n : Nat) : 0 < digitCount n :=
  Nat.length_toDigits_pos

theorem lt_digitCount {n k : Nat} (hk : 0 < k) (h : 10 ^ k ≤ n) : k < digitCount n := by
  by_contra hle
  exact absurd ((Nat.length_toDigits_le_iff (by decide) hk).mp (not_lt.mp hle)) (not_lt.mpr h)

/-- A decimal whose point is in reach is the double next to it. -/
theorem ofDecimal_eq_ofPlaced (hdigits : 0 < digits)
    (hlow : -330 ≤ (digitCount digits : Int) + exponent)
    (hhigh : (digitCount digits : Int) + exponent ≤ 310) :
    ofDecimal negative digits exponent = ofPlaced negative digits exponent := by
  have hzero : (digits == 0) = false := beq_eq_false_iff_ne.mpr hdigits.ne'
  have hlow' : ¬ Int.ofNat (digitCount digits) + exponent < -330 := not_lt.mpr hlow
  have hhigh' : ¬ 310 < Int.ofNat (digitCount digits) + exponent := not_lt.mpr hhigh
  simp only [ofDecimal, ofPlaced, hzero, hlow', hhigh', Bool.false_or, decide_false,
    Bool.false_eq_true, if_false]

theorem mul_lt_pow_add {a b j k : Nat} (ha : a < 10 ^ j) (hb : b ≤ 10 ^ k) :
    a * b < 10 ^ (j + k) := by
  rw [Nat.pow_add]
  exact Nat.lt_of_le_of_lt (Nat.mul_le_mul_left a hb)
    (Nat.mul_lt_mul_of_pos_right ha (Nat.pow_pos (by decide)))

/-- What a double is made of is far within the limits for decimals. -/
theorem powers_bounded {k : Nat} :
    (k ≤ 1074 → 2 ^ k ≤ 10 ^ 331) ∧ (k ≤ 971 → 2 ^ 53 * 2 ^ k < 10 ^ 310) := by
  constructor
  · intro hk
    obtain ⟨j, hj⟩ := Nat.exists_eq_add_of_le hk
    have hmost : 2 ^ (k + j) ≤ 10 ^ 331 := by
      rw [← hj]
      decide +kernel
    exact le_trans (Nat.pow_le_pow_right Nat.two_pos (Nat.le_add_right k j)) hmost
  · intro hk
    obtain ⟨j, hj⟩ := Nat.exists_eq_add_of_le hk
    have hmost : 2 ^ 53 * 2 ^ (k + j) < 10 ^ 310 := by
      rw [← hj]
      decide +kernel
    exact lt_of_le_of_lt (Nat.mul_le_mul_left _
      (Nat.pow_le_pow_right Nat.two_pos (Nat.le_add_right k j))) hmost

/-- A double is a multiple of a negative power of two, which is one of five over one of ten, or of a
positive one. -/
theorem exactDecimal_cases (x : Magnitude) :
    (∃ k : Nat, k ≤ 1074 ∧ x.exponent = -(k : Int) ∧ x.ratio = (x.significand, 2 ^ k) ∧
        exactDecimal x = ⟨x.significand * 5 ^ k, -(k : Int)⟩) ∨
      ∃ k : Nat, k ≤ 971 ∧ x.exponent = k ∧ x.ratio = (x.significand * 2 ^ k, 1) ∧
        exactDecimal x = ⟨x.significand * 2 ^ k, 0⟩ := by
  obtain ⟨-, hmin, hmax, -⟩ := x.canonical
  rw [Magnitude.ratio, exactDecimal]
  by_cases hneg : x.exponent < 0
  · obtain ⟨k, hk⟩ : ∃ k : Nat, x.exponent = -(k : Int) := ⟨x.exponent.natAbs, by omega⟩
    refine .inl ⟨k, by omega, hk, ?_, ?_⟩ <;>
      rw [if_pos hneg, hk, Int.natAbs_neg, Int.natAbs_natCast] <;> rfl
  · obtain ⟨k, hk⟩ : ∃ k : Nat, x.exponent = (k : Int) := ⟨x.exponent.natAbs, by omega⟩
    refine .inr ⟨k, by omega, hk, ?_, ?_⟩ <;>
      rw [if_neg hneg, hk, Int.natAbs_natCast] <;> rfl

/-- The point of the exact decimal of a double is in reach. -/
theorem exactDecimal_in_reach {x : Magnitude} (h : 0 < x.significand) :
    -330 ≤ (digitCount (exactDecimal x).digits : Int) + (exactDecimal x).exponent ∧
      (digitCount (exactDecimal x).digits : Int) + (exactDecimal x).exponent ≤ 310 := by
  have hlimit : x.significand < 2 ^ 53 := x.canonical.1
  rcases exactDecimal_cases x with ⟨k, hk, -, -, hexact⟩ | ⟨k, hk, -, -, hexact⟩ <;> rw [hexact]
  · have hten : 10 ^ k = 5 ^ k * 2 ^ k := by rw [← Nat.mul_pow]
    have hlow : k < digitCount (x.significand * 5 ^ k) + 331 := by
      -- the first 331 places cost nothing, and beyond them the powers of five are long enough
      by_cases hsmall : k ≤ 331
      · have hpos := digitCount_pos (x.significand * 5 ^ k)
        omega
      · have hle : 10 ^ (k - 331) ≤ x.significand * 5 ^ k := by
          refine le_trans ?_ (Nat.le_mul_of_pos_left _ h)
          refine Nat.le_of_mul_le_mul_right ?_ (Nat.pow_pos (by decide) : 0 < 2 ^ k)
          calc 10 ^ (k - 331) * 2 ^ k ≤ 10 ^ (k - 331) * 10 ^ 331 :=
                Nat.mul_le_mul_left _ (powers_bounded.1 hk)
            _ = 5 ^ k * 2 ^ k := by
                rw [← Nat.pow_add, ← hten]
                congr 1
                omega
        have := lt_digitCount (by omega) hle
        omega
    have hhigh : digitCount (x.significand * 5 ^ k) ≤ 310 + k := by
      have hsignificand : x.significand < 10 ^ 310 := lt_trans hlimit (by decide +kernel)
      exact digitCount_le (by omega)
        (mul_lt_pow_add hsignificand (Nat.pow_le_pow_left (by decide) k))
    constructor <;> dsimp only <;> omega
  · have hhigh : digitCount (x.significand * 2 ^ k) ≤ 310 := by
      have hlt := lt_of_le_of_lt (Nat.mul_le_mul_right (2 ^ k) hlimit.le) (powers_bounded.2 hk)
      exact digitCount_le (Nat.succ_pos _) hlt
    constructor <;> dsimp only <;> omega

/-- The exact decimal of a double is read as it. -/
theorem ofDecimal_exactDecimal {x : Magnitude} (h : 0 < x.significand) :
    ofDecimal false (exactDecimal x).digits (exactDecimal x).exponent = .finite false x := by
  obtain ⟨hlow, hhigh⟩ := exactDecimal_in_reach h
  have hratio := ofRatio_ratio false h
  rcases exactDecimal_cases x with ⟨k, -, -, hquotient, hexact⟩ | ⟨k, -, -, hquotient, hexact⟩ <;>
    rw [hexact] at hlow hhigh ⊢ <;> rw [hquotient] at hratio
  · have hfive : 0 < 5 ^ k := Nat.pow_pos (by decide)
    rw [ofDecimal_eq_ofPlaced (Nat.mul_pos h hfive) hlow hhigh, ← hratio, ofPlaced_neg,
      Nat.mul_comm x.significand, Nat.mul_pow 5 2 k]
    exact ofRatio_mul false hfive x.significand (Nat.pow_pos (by decide))
  · rw [ofDecimal_eq_ofPlaced (Nat.mul_pos h (Nat.pow_pos (by decide))) hlow hhigh, ← hratio]
    exact congrArg (ofRatio false · 1) (Nat.mul_one _)

/-- The shortest decimal of a double is read as it. -/
theorem ofDecimal_shortest {x : Magnitude} (h : 0 < x.significand) :
    ofDecimal false (shortest x).digits (shortest x).exponent = .finite false x := by
  rw [shortest]
  simp only
  cases hgrid : firstGrid? (.finite false x) x.ratio.1 x.ratio.2 17
      (decimalPoint x.ratio.1 x.ratio.2 400 (pointEstimate x.ratio.1 x.ratio.2) - 1) with
  | some d => exact ofDecimal_of_firstGrid hgrid
  | none => exact ofDecimal_exactDecimal h

end Ambient.Double
