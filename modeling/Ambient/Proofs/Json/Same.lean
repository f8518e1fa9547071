/-
  Ambient.Proofs.Json.Same

  When values are the same key. Numbers are counted in steps of the least double, so that integers,
  truth values and doubles of one numeric value have one count; two values that can serve as keys are
  the same exactly if they agree when their numbers are counted (`same_iff`). So being the same key
  is an equivalence.
-/
import Ambient.Json.Basic
import Ambient.Proofs.Distinct
import Mathlib.Tactic.Ring

namespace Ambient

/-! ## Steps -/

/-- The number of least steps in a unit. It is only ever reasoned about by name: nothing is to compute
it. -/
@[irreducible] def stepsPerUnit : Nat := 2 ^ 1074

theorem stepsPerUnit_pos : 0 < stepsPerUnit := by
  have hpow : ∀ n, 0 < 2 ^ n := Nat.two_pow_pos
  unfold stepsPerUnit
  exact hpow _

namespace Magnitude

/-- The distance from zero, in least steps. -/
def steps (x : Magnitude) : Nat :=
  x.significand * 2 ^ (x.exponent + 1074).toNat

theorem steps_eq_zero {x : Magnitude} : x.steps = 0 ↔ x.isZero = true := by
  have hpow : 2 ^ (x.exponent + 1074).toNat ≠ 0 := Nat.ne_of_gt (Nat.pow_pos (by decide))
  rw [steps, isZero, Nat.mul_eq_zero, beq_iff_eq]
  exact ⟨fun h => h.resolve_right hpow, .inl⟩

/-- The number with the greater exponent is the greater one, for its leading bit is set. -/
theorem steps_lt {x y : Magnitude} (h : x.exponent < y.exponent) : x.steps < y.steps := by
  obtain ⟨hx, hxmin, -, -⟩ := x.canonical
  obtain ⟨-, -, -, hlead⟩ := y.canonical
  have hleading : leadingBit ≤ y.significand := by
    rcases hlead with h' | h'
    · exact h'
    · omega
  -- one step of the exponent makes up for the bits of a significand
  have hstep : 2 ^ (y.exponent + 1074).toNat =
      2 ^ (x.exponent + 1074).toNat * 2 ^ (y.exponent - x.exponent).toNat := by
    rw [← Nat.pow_add]
    congr 1
    omega
  have htwo : 2 ≤ 2 ^ (y.exponent - x.exponent).toNat :=
    Nat.le_self_pow (by omega) 2
  have hlimit : significandLimit = leadingBit * 2 := by decide
  have hpos : 0 < 2 ^ (x.exponent + 1074).toNat := Nat.pow_pos (by decide)
  unfold steps
  calc x.significand * 2 ^ (x.exponent + 1074).toNat
      < leadingBit * 2 * 2 ^ (x.exponent + 1074).toNat := by
        rw [← hlimit]
        exact Nat.mul_lt_mul_of_pos_right hx hpos
    _ ≤ y.significand * 2 ^ (y.exponent - x.exponent).toNat * 2 ^ (x.exponent + 1074).toNat :=
        Nat.mul_le_mul_right _ (Nat.mul_le_mul hleading htwo)
    _ = y.significand * 2 ^ (y.exponent + 1074).toNat := by
        rw [hstep]
        ring

/-- A number has one canonical form. -/
theorem eq_of_steps {x y : Magnitude} (h : x.steps = y.steps) : x = y := by
  have hexponent : x.exponent = y.exponent := by
    rcases lt_trichotomy x.exponent y.exponent with hlt | heq | hgt
    · exact absurd h (Nat.ne_of_lt (steps_lt hlt))
    · exact heq
    · exact absurd h (Nat.ne_of_gt (steps_lt hgt))
  have hpos : 0 < 2 ^ (y.exponent + 1074).toNat := Nat.pow_pos (by decide)
  have hsignificand : x.significand = y.significand := by
    unfold steps at h
    rw [hexponent] at h
    exact Nat.eq_of_mul_eq_mul_right hpos h
  obtain ⟨s, e, _⟩ := x
  obtain ⟨s', e', _⟩ := y
  cases hexponent
  cases hsignificand
  rfl

/-- The value as a fraction, in steps. -/
theorem ratio_steps (x : Magnitude) :
    0 < x.ratio.2 ∧ x.ratio.1 * stepsPerUnit = x.steps * x.ratio.2 := by
  obtain ⟨s, e, hcanonical⟩ := x
  have hmin : -1074 ≤ e := hcanonical.2.1
  unfold ratio steps stepsPerUnit
  dsimp only
  split
  · -- a negative exponent is a denominator
    refine ⟨Nat.pow_pos (by decide), ?_⟩
    have hsplit : 2 ^ 1074 = 2 ^ (e + 1074).toNat * 2 ^ e.natAbs := by
      rw [← Nat.pow_add]
      congr 1
      omega
    show s * 2 ^ 1074 = s * 2 ^ (e + 1074).toNat * 2 ^ e.natAbs
    rw [hsplit, Nat.mul_assoc]
  · refine ⟨Nat.one_pos, ?_⟩
    have hsplit : 2 ^ (e + 1074).toNat = 2 ^ e.natAbs * 2 ^ 1074 := by
      rw [← Nat.pow_add]
      congr 1
      omega
    show s * 2 ^ e.natAbs * 2 ^ 1074 = s * 2 ^ (e + 1074).toNat * 1
    rw [hsplit, Nat.mul_assoc, Nat.mul_one]

/-- The value is an integer exactly if it is a number of whole units. -/
theorem ratio_eq_iff (x : Magnitude) (n : Nat) :
    x.ratio.1 = n * x.ratio.2 ↔ x.steps = n * stepsPerUnit := by
  obtain ⟨hpos, hsteps⟩ := x.ratio_steps
  constructor
  · intro h
    refine Nat.eq_of_mul_eq_mul_right hpos ?_
    rw [← hsteps, h]
    ring
  · intro h
    refine Nat.eq_of_mul_eq_mul_right stepsPerUnit_pos ?_
    rw [hsteps, h]
    ring

end Magnitude

namespace Json

/-- The value with its number counted in least steps. -/
def counted : Json → Json
  | .bool b => .int (if b then stepsPerUnit else 0)
  | .int n => .int (n * stepsPerUnit)
  | .float (.finite negative x) => .int (if negative then -(x.steps : Int) else x.steps)
  | value => value

/-! ## Numbers -/

theorem sameValue_iff (x y : Double) :
    x.sameValue y = true ↔ (float x).counted = (float y).counted := by
  cases x with
  | nan => cases y <;> simp [Double.sameValue, counted]
  | infinity s => cases y <;> simp [Double.sameValue, counted]
  | finite s x =>
    cases y with
    | nan => simp [Double.sameValue, counted]
    | infinity s' => simp [Double.sameValue, counted]
    | finite s' y =>
      simp only [Double.sameValue, counted, Bool.or_eq_true, Bool.and_eq_true, beq_iff_eq,
        ← Magnitude.steps_eq_zero, Json.int.injEq]
      constructor
      · rintro (⟨hx, hy⟩ | ⟨rfl, rfl⟩)
        · simp [hx, hy]
        · rfl
      · intro h
        -- with one sign the magnitudes agree, and with two there is no distance from zero
        by_cases hsign : s = s'
        · subst hsign
          refine .inr ⟨rfl, Magnitude.eq_of_steps ?_⟩
          cases s <;> simp at h <;> omega
        · refine .inl ?_
          cases s <;> cases s' <;> simp at hsign h <;> omega

theorem equalsInt_iff (x : Double) (n : Int) :
    x.equalsInt n = true ↔ (float x).counted = (int n).counted := by
  cases x with
  | nan => simp [Double.equalsInt, counted]
  | infinity s => simp [Double.equalsInt, counted]
  | finite s x =>
    have hpos := stepsPerUnit_pos
    have hcount : x.ratio.1 = n.natAbs * x.ratio.2 ↔ x.steps = n.natAbs * stepsPerUnit :=
      x.ratio_eq_iff n.natAbs
    have hparts : (Double.finite s x).equalsInt n = true ↔
        x.ratio.1 = n.natAbs * x.ratio.2 ∧ (n = 0 ∨ s = decide (n < 0)) := by
      simp [Double.equalsInt]
    rw [hparts, hcount]
    simp only [counted, Json.int.injEq]
    -- the absolute value and the sign of the integer
    rcases lt_trichotomy n 0 with hneg | rfl | hpositive
    · obtain ⟨m, rfl⟩ : ∃ m : Nat, n = -(m : Int) := ⟨n.natAbs, by omega⟩
      have hm : 0 < m * stepsPerUnit := Nat.mul_pos (by omega) hpos
      rw [Int.natAbs_neg, Int.natAbs_natCast, Int.neg_mul, ← Int.natCast_mul]
      cases s <;> simp <;> omega
    · cases s <;> simp
    · obtain ⟨m, rfl⟩ : ∃ m : Nat, n = (m : Int) := ⟨n.natAbs, by omega⟩
      have hm : 0 < m * stepsPerUnit := Nat.mul_pos (by omega) hpos
      rw [Int.natAbs_natCast, ← Int.natCast_mul]
      cases s <;> simp <;> omega

/-! ## Keys -/

theorem counted_of_asInt {value : Json} {n : Int} (h : value.asInt? = some n) :
    value.counted = (int n).counted := by
  cases value with
  | int m =>
    cases h
    rfl
  | bool b =>
    cases h
    cases b <;> simp [counted]
  | _ => cases h

/-- Integers and truth values are the same number exactly if they have one count. -/
theorem eq_iff_counted {a b : Json} {m n : Int} (ha : a.asInt? = some m) (hb : b.asInt? = some n) :
    m = n ↔ a.counted = b.counted := by
  rw [counted_of_asInt ha, counted_of_asInt hb]
  simp [counted, Nat.ne_of_gt stepsPerUnit_pos]

/-- A fractional number is the number of an integer or a truth value exactly if they have one
count. -/
theorem equalsInt_iff_counted {x : Double} {b : Json} {n : Int} (hb : b.asInt? = some n) :
    x.equalsInt n = true ↔ (float x).counted = b.counted := by
  rw [counted_of_asInt hb]
  exact equalsInt_iff x n

/-- Keys are the same exactly if they agree when their numbers are counted. -/
theorem same_iff {a b : Json} (ha : a.isKey = true) (hb : b.isKey = true) :
    a.same b = true ↔ a.counted = b.counted := by
  -- values of different kinds are apart on both sides, and truth values count as numbers
  cases a with
  | arr | obj => cases ha
  | null =>
    cases b with
    | arr | obj => cases hb
    | float y => cases y <;> simp [same, sameNumber, asInt?, counted]
    | _ => simp [same, sameNumber, asInt?, counted]
  | str s =>
    cases b with
    | arr | obj => cases hb
    | float y => cases y <;> simp [same, sameNumber, asInt?, counted]
    | _ => simp [same, sameNumber, asInt?, counted]
  | float x =>
    cases b with
    | arr | obj => cases hb
    | null | str => cases x <;> simp [same, sameNumber, asInt?, counted]
    | float y => exact sameValue_iff x y
    | int n => exact equalsInt_iff x n
    | bool b => exact equalsInt_iff_counted rfl
  | int m =>
    cases b with
    | arr | obj => cases hb
    | null | str => simp [same, sameNumber, asInt?, counted]
    | float y => exact (equalsInt_iff y m).trans eq_comm
    | int n => simpa [same, sameNumber, asInt?] using @eq_iff_counted (int m) (int n) _ _ rfl rfl
    | bool b => simpa [same, sameNumber, asInt?] using @eq_iff_counted (int m) (bool b) _ _ rfl rfl
  | bool a =>
    cases b with
    | arr | obj => cases hb
    | null | str => simp [same, sameNumber, asInt?, counted]
    | float y => exact (equalsInt_iff_counted (b := bool a) rfl).trans eq_comm
    | int n => simpa [same, sameNumber, asInt?] using @eq_iff_counted (bool a) (int n) _ _ rfl rfl
    | bool b => simpa [same, sameNumber, asInt?] using @eq_iff_counted (bool a) (bool b) _ _ rfl rfl

/-- A value counts as given exactly if it does when it is counted. -/
@[simp] theorem isTruthy_counted (value : Json) : value.counted.isTruthy = value.isTruthy := by
  have hpos := Nat.ne_of_gt stepsPerUnit_pos
  cases value with
  | bool b => cases b <;> simp [counted, isTruthy, hpos]
  | int n =>
    rw [Bool.eq_iff_iff]
    simp [counted, isTruthy, hpos]
  | float x =>
    cases x with
    | finite s x =>
      have hzero := x.steps_eq_zero
      rw [Bool.eq_iff_iff]
      cases s <;> simp [counted, isTruthy, Double.isNonzero, hzero]
    | _ => rfl
  | _ => rfl

/-- Values that are the same key still are when another key stands for those that do not count as
given. -/
theorem same_orElse {a b fallback : Json} (ha : a.isKey = true) (hb : b.isKey = true)
    (hfallback : fallback.isKey = true) (h : a.same b = true) :
    (a.orElse fallback).same (b.orElse fallback) = true := by
  have htruthy : a.isTruthy = b.isTruthy := by
    rw [← isTruthy_counted a, (same_iff ha hb).mp h, isTruthy_counted]
  rw [orElse, orElse, htruthy]
  split
  · exact h
  · exact (same_iff hfallback hfallback).mpr rfl

/-- The comparison of keys tells by their counts. -/
theorem tells_counted {keys : List Json} (h : ∀ key ∈ keys, key.isKey = true) :
    Distinct.Tells same counted keys :=
  fun a ha b hb => same_iff (h a ha) (h b hb)

end Json

end Ambient
