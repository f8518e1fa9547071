/-
  Ambient.Proofs.Number.Rounding

  Rounding of quotients. The exponent of the double next to a quotient is the one that leaves a
  significand of 53 bits, or the least one, so it is told by the value of the quotient alone
  (`exponentFor_eq`). Hence a quotient rounds as it does when it is reduced (`ofRatio_mul`), and that
  of a double rounds to the double itself (`ofRatio_ratio`).
-/
import Ambient.Number.Double
import Mathlib.Algebra.Order.Field.Power
import Mathlib.Data.Rat.Cast.Order
import Mathlib.Tactic.FieldSimp
import Mathlib.Tactic.Linarith
import Mathlib.Tactic.NormNum
import Mathlib.Tactic.Positivity
import Mathlib.Tactic.Ring

namespace Ambient.Double

variable {num den : Nat} {e : Int}

/-! ## Scaled quotients -/

theorem scaled_snd_pos (hden : 0 < den) (e : Int) : 0 < (scaled num den e).2 := by
  rw [scaled]
  split
  · exact hden
  · exact Nat.mul_pos hden (Nat.pow_pos (by decide))

/-- A quotient is scaled by a power of two. -/
theorem scaled_value (hden : 0 < den) (e : Int) :
    ((scaled num den e).1 : ℚ) / (scaled num den e).2 = num / den / 2 ^ e := by
  have hden' : (den : ℚ) ≠ 0 := by positivity
  rw [scaled]
  split
  · rename_i h
    obtain ⟨k, rfl⟩ : ∃ k : Nat, e = -(k : Int) := ⟨e.natAbs, by omega⟩
    rw [Int.natAbs_neg, Int.natAbs_natCast, zpow_neg, zpow_natCast, div_inv_eq_mul]
    show ((num * 2 ^ k : Nat) : ℚ) / den = num / den * 2 ^ k
    push_cast
    ring
  · rename_i h
    obtain ⟨k, rfl⟩ : ∃ k : Nat, e = (k : Int) := ⟨e.natAbs, by omega⟩
    rw [Int.natAbs_natCast, zpow_natCast]
    show (num : ℚ) / ((den * 2 ^ k : Nat) : ℚ) = num / den / 2 ^ k
    push_cast
    rw [div_div]

/-- The integer part of a scaled quotient is at least a limit exactly if the quotient is. -/
theorem le_scaled_iff (hden : 0 < den) (e : Int) (limit : Nat) :
    limit ≤ (scaled num den e).1 / (scaled num den e).2 ↔
      (limit : ℚ) * 2 ^ e ≤ num / den := by
  have hpos : (0 : ℚ) < (scaled num den e).2 := by exact_mod_cast scaled_snd_pos hden e
  rw [← le_div_iff₀ (by positivity), ← scaled_value hden, le_div_iff₀ hpos,
    Nat.le_div_iff_mul_le (scaled_snd_pos hden e)]
  exact_mod_cast Iff.rfl

theorem scaled_mul (c : Nat) (e : Int) :
    scaled (c * num) (c * den) e = (c * (scaled num den e).1, c * (scaled num den e).2) := by
  rw [scaled, scaled]
  split <;> simp only [Nat.mul_assoc]

theorem roundDiv_mul {c : Nat} (hc : 0 < c) (n d : Nat) : roundDiv (c * n) (c * d) = roundDiv n d := by
  have hless : ∀ a b, 2 * (c * a) < c * b ↔ 2 * a < b := by
    intro a b
    rw [Nat.mul_left_comm]
    exact Nat.mul_lt_mul_left hc
  have hmore : ∀ a b, c * b < 2 * (c * a) ↔ b < 2 * a := by
    intro a b
    rw [Nat.mul_left_comm]
    exact Nat.mul_lt_mul_left hc
  simp only [roundDiv, Nat.mul_div_mul_left n d hc, Nat.mul_mod_mul_left, hless, hmore]

theorem roundDiv_mul_self (n : Nat) {d : Nat} (hd : 0 < d) : roundDiv (n * d) d = n := by
  simp [roundDiv, Nat.mul_div_cancel n hd, hd]

/-! ## Exponents -/

/-- The exponent at which a positive number has a significand of 53 bits. -/
def Leads (value : ℚ) (e : Int) : Prop :=
  (2 : ℚ) ^ (e + 52) ≤ value ∧ value < (2 : ℚ) ^ (e + 53)

theorem Leads.unique {value : ℚ} {e e' : Int} (h : Leads value e) (h' : Leads value e') :
    e = e' := by
  have hle : e + 52 < e' + 53 :=
    (zpow_lt_zpow_iff_right₀ (by norm_num : (1 : ℚ) < 2)).mp (lt_of_le_of_lt h.1 h'.2)
  have hge : e' + 52 < e + 53 :=
    (zpow_lt_zpow_iff_right₀ (by norm_num : (1 : ℚ) < 2)).mp (lt_of_le_of_lt h'.1 h.2)
  omega

/-- The sizes of two numbers in bits tell their quotient but for a factor of two to either side. -/
theorem quotient_bounds (hnum : 0 < num) (hden : 0 < den) :
    (2 : ℚ) ^ ((num.log2 : Int) - den.log2 - 1) < num / den ∧
      (num : ℚ) / den < (2 : ℚ) ^ ((num.log2 : Int) - den.log2 + 1) := by
  have hden' : (0 : ℚ) < den := by exact_mod_cast hden
  -- a number is at least its leading power of two and less than the next one
  have hlow : (2 : ℚ) ^ num.log2 ≤ num := by exact_mod_cast Nat.log2_self_le hnum.ne'
  have hhigh : (num : ℚ) < 2 ^ (num.log2 + 1) := by exact_mod_cast Nat.lt_log2_self
  have hlow' : (2 : ℚ) ^ den.log2 ≤ den := by exact_mod_cast Nat.log2_self_le hden.ne'
  have hhigh' : (den : ℚ) < 2 ^ (den.log2 + 1) := by exact_mod_cast Nat.lt_log2_self
  constructor
  · rw [lt_div_iff₀ hden']
    calc (2 : ℚ) ^ ((num.log2 : Int) - den.log2 - 1) * den
        < 2 ^ ((num.log2 : Int) - den.log2 - 1) * 2 ^ (den.log2 + 1) :=
          mul_lt_mul_of_pos_left hhigh' (by positivity)
      _ = 2 ^ num.log2 := by
          rw [← zpow_natCast, ← zpow_natCast, ← zpow_add₀ (by norm_num)]
          congr 1
          push_cast
          ring
      _ ≤ num := hlow
  · rw [div_lt_iff₀ hden']
    calc (num : ℚ) < 2 ^ (num.log2 + 1) := hhigh
      _ = 2 ^ ((num.log2 : Int) - den.log2 + 1) * 2 ^ den.log2 := by
          rw [← zpow_natCast, ← zpow_natCast, ← zpow_add₀ (by norm_num)]
          congr 1
          push_cast
          ring
      _ ≤ 2 ^ ((num.log2 : Int) - den.log2 + 1) * den :=
          mul_le_mul_of_nonneg_left hlow' (by positivity)

/-- The exponent of a quotient is the one at which its significand has 53 bits, or the least one. -/
theorem exists_leads (hnum : 0 < num) (hden : 0 < den) :
    ∃ e, Leads (num / den) e ∧ exponentFor num den = max e minExponent := by
  obtain ⟨hlow, hhigh⟩ := quotient_bounds hnum hden
  have hclamp : ∀ e : Int, (if e < minExponent then minExponent else e) = max e minExponent := by
    intro e
    split <;> omega
  have hlimit : ∀ e : Int, ((significandLimit : Nat) : ℚ) * 2 ^ e = 2 ^ (e + 53) := by
    intro e
    rw [zpow_add₀ (by norm_num), mul_comm]
    norm_num [significandLimit]
  simp only [exponentFor, hclamp, le_scaled_iff hden, hlimit]
  -- what is tried first is the exponent or one less
  split
  · rename_i h
    refine ⟨_, ⟨?_, ?_⟩, rfl⟩
    · exact le_trans (le_of_eq (by congr 1; ring)) h
    · exact lt_of_lt_of_eq hhigh (by congr 1; simp only [Int.ofNat_eq_natCast]; ring)
  · rename_i h
    refine ⟨_, ⟨?_, ?_⟩, rfl⟩
    · exact le_of_eq_of_le (by congr 1; simp only [Int.ofNat_eq_natCast]; ring) hlow.le
    · exact not_le.mp h

theorem exponentFor_eq (hnum : 0 < num) (hden : 0 < den) (h : Leads (num / den) e) :
    exponentFor num den = max e minExponent := by
  obtain ⟨e', hleads, hexponent⟩ := exists_leads hnum hden
  rw [hexponent, hleads.unique h]

theorem exponentFor_mul {c : Nat} (hc : 0 < c) (hnum : 0 < num) (hden : 0 < den) :
    exponentFor (c * num) (c * den) = exponentFor num den := by
  obtain ⟨e, hleads, hexponent⟩ := exists_leads hnum hden
  have hvalue : ((c * num : Nat) : ℚ) / (c * den : Nat) = num / den := by
    push_cast
    exact mul_div_mul_left _ _ (by exact_mod_cast hc.ne')
  rw [hexponent]
  exact exponentFor_eq (Nat.mul_pos hc hnum) (Nat.mul_pos hc hden) (hvalue ▸ hleads)

/-! ## Doubles -/

/-- A quotient rounds as the reduced one does. -/
theorem ofRatio_mul (negative : Bool) {c : Nat} (hc : 0 < c) (num : Nat) (hden : 0 < den) :
    ofRatio negative (c * num) (c * den) = ofRatio negative num den := by
  rcases Nat.eq_zero_or_pos num with rfl | hnum
  · rfl
  · have hzero : (c * num == 0) = (num == 0) := by
      rw [beq_eq_false_iff_ne.mpr hnum.ne', beq_eq_false_iff_ne.mpr (Nat.mul_pos hc hnum).ne']
    simp only [ofRatio, hzero, exponentFor_mul hc hnum hden, scaled_mul, roundDiv_mul hc]

/-- The value of a double. -/
theorem ratio_value (x : Magnitude) :
    (x.ratio.1 : ℚ) / x.ratio.2 = x.significand * 2 ^ x.exponent := by
  rw [Magnitude.ratio]
  split
  · rename_i h
    obtain ⟨k, hk⟩ : ∃ k : Nat, x.exponent = -(k : Int) := ⟨x.exponent.natAbs, by omega⟩
    rw [hk, Int.natAbs_neg, Int.natAbs_natCast, zpow_neg, zpow_natCast, ← div_eq_mul_inv]
    norm_cast
  · rename_i h
    obtain ⟨k, hk⟩ : ∃ k : Nat, x.exponent = (k : Int) := ⟨x.exponent.natAbs, by omega⟩
    rw [hk, Int.natAbs_natCast, zpow_natCast]
    show ((x.significand * 2 ^ k : Nat) : ℚ) / ((1 : Nat) : ℚ) = _
    push_cast
    rw [div_one]

theorem ratio_snd_pos (x : Magnitude) : 0 < x.ratio.2 := by
  rw [Magnitude.ratio]
  split
  · exact Nat.pow_pos (by decide)
  · exact Nat.one_pos

theorem ratio_fst_pos {x : Magnitude} (h : 0 < x.significand) : 0 < x.ratio.1 := by
  rw [Magnitude.ratio]
  split
  · exact h
  · exact Nat.mul_pos h (Nat.pow_pos (by decide))

/-- The exponent of the quotient of a double is that of the double. -/
theorem exponentFor_ratio {x : Magnitude} (h : 0 < x.significand) :
    exponentFor x.ratio.1 x.ratio.2 = x.exponent := by
  obtain ⟨hlimit, hmin, -, hlead⟩ := x.canonical
  have hlimit' : (x.significand : ℚ) < 2 ^ (53 : Int) := by exact_mod_cast hlimit
  -- the value leads at one exponent only, which the quotient has found
  obtain ⟨e, hleads, hexponent⟩ := exists_leads (ratio_fst_pos h) (ratio_snd_pos x)
  rw [ratio_value] at hleads
  rw [hexponent, minExponent]
  by_cases hfull : leadingBit ≤ x.significand
  · have hfull' : (2 : ℚ) ^ (52 : Int) ≤ x.significand := by exact_mod_cast hfull
    have hx : Leads (x.significand * 2 ^ x.exponent) x.exponent := by
      constructor
      · rw [add_comm, zpow_add₀ (by norm_num)]
        exact mul_le_mul_of_nonneg_right hfull' (by positivity)
      · rw [add_comm, zpow_add₀ (by norm_num)]
        exact mul_lt_mul_of_pos_right hlimit' (by positivity)
    rw [hleads.unique hx]
    omega
  · -- a significand with fewer bits stands at the least exponent, and leads at a lesser one
    have hleast : x.exponent = -1074 := hlead.resolve_left hfull
    have hsmall : (x.significand : ℚ) < 2 ^ (52 : Int) := by exact_mod_cast not_le.mp hfull
    have hless : (2 : ℚ) ^ (e + 52) < 2 ^ (52 + x.exponent) := by
      refine lt_of_le_of_lt hleads.1 ?_
      rw [zpow_add₀ (by norm_num)]
      exact mul_lt_mul_of_pos_right hsmall (by positivity)
    have hexp := (zpow_lt_zpow_iff_right₀ (by norm_num : (1 : ℚ) < 2)).mp hless
    omega

/-- The significand of a double is what its quotient leaves at its exponent. -/
theorem scaled_ratio (x : Magnitude) :
    ∃ d, 0 < d ∧ scaled x.ratio.1 x.ratio.2 x.exponent = (x.significand * d, d) := by
  rw [Magnitude.ratio]
  split
  · rename_i h
    exact ⟨Nat.pow 2 x.exponent.natAbs, Nat.pow_pos (by decide), by rw [scaled, if_pos h]⟩
  · rename_i h
    exact ⟨Nat.pow 2 x.exponent.natAbs, Nat.pow_pos (by decide), by
      rw [scaled, if_neg h, Nat.one_mul]⟩

/-- The quotient of a double other than zero rounds to the double. -/
theorem ofRatio_ratio (negative : Bool) {x : Magnitude} (h : 0 < x.significand) :
    ofRatio negative x.ratio.1 x.ratio.2 = .finite negative x := by
  have hzero : (x.ratio.1 == 0) = false := beq_eq_false_iff_ne.mpr (ratio_fst_pos h).ne'
  obtain ⟨d, hd, hscaled⟩ := scaled_ratio x
  have hlimit : (x.significand == significandLimit) = false :=
    beq_eq_false_iff_ne.mpr x.canonical.1.ne
  have hof : Magnitude.of? x.significand x.exponent = some x := by
    rw [Magnitude.of?, dif_pos x.canonical]
  simp only [ofRatio, hzero, exponentFor_ratio h, hscaled, roundDiv_mul_self _ hd, hlimit, hof,
    Bool.false_eq_true, if_false]

end Ambient.Double
