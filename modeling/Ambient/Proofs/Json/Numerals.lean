/-
  Ambient.Proofs.Json.Numerals

  Numbers of documents read back. The digits of an integer are read as the integer (`readNumber_int`),
  and each of the four notations of a decimal is read as the double next to it, whatever its zeros
  and the place of its point (`readNumber_text`).
-/
import Ambient.Json.Reader
import Ambient.Proofs.Number.Shortest
import Ambient.Proofs.Text.Digits

namespace Ambient.Json

open Text

/-! ## Runs of digits -/

/-- Whether a character goes on with a number. -/
def goesOn (c : Char) : Bool :=
  isAsciiDigit c || c == '.' || c == 'e' || c == 'E'

/-- What follows a number does not go on with it. -/
def EndsNumber (rest : List Char) : Prop :=
  ∀ c, rest.head? = some c → goesOn c = false

/-- What follows a run of digits is no digit. -/
def EndsDigits (rest : List Char) : Prop :=
  ∀ c, rest.head? = some c → isAsciiDigit c = false

theorem EndsNumber.endsDigits {rest : List Char} (h : EndsNumber rest) : EndsDigits rest := by
  intro c hc
  have hgoes := h c hc
  simp only [goesOn, Bool.or_eq_false_iff] at hgoes
  exact hgoes.1.1.1

/-- A run of decimal digits. -/
def IsRun (digits : List Char) : Prop :=
  digits ≠ [] ∧ ∀ c ∈ digits, isAsciiDigit c = true

/-- The digits before a point: there are some, and the first is zero only on its own. -/
def IsWhole (digits : List Char) : Prop :=
  IsRun digits ∧ (digits = ['0'] ∨ digits.head? ≠ some '0')

variable {digits rest : List Char}

theorem takeWhile_digits (hdigits : ∀ c ∈ digits, isAsciiDigit c = true) (hrest : EndsDigits rest) :
    (digits ++ rest).takeWhile isAsciiDigit = digits ∧
      (digits ++ rest).dropWhile isAsciiDigit = rest := by
  rw [List.takeWhile_append_of_pos hdigits, List.dropWhile_append_of_pos hdigits]
  cases rest with
  | nil => simp
  | cons c rest =>
    have hc := hrest c rfl
    simp [hc]

theorem isRun_toDigits (n : Nat) : IsRun (Nat.toDigits 10 n) :=
  ⟨Nat.toDigits_ne_nil, fun _ => isAsciiDigit_of_mem_toDigits⟩

theorem isWhole_toDigits (n : Nat) : IsWhole (Nat.toDigits 10 n) := by
  refine ⟨isRun_toDigits n, ?_⟩
  rcases Nat.eq_zero_or_pos n with rfl | hn
  · exact .inl (Nat.toDigits_zero 10)
  · exact .inr (head?_toDigits_ne_zero hn)

/-- Digits after a run whose first is not zero belong to the whole. -/
theorem isWhole_append (hrun : IsRun digits) (hhead : digits.head? ≠ some '0') {more : List Char}
    (hmore : ∀ c ∈ more, isAsciiDigit c = true) : IsWhole (digits ++ more) := by
  refine ⟨⟨by simp [hrun.1], fun c hc => ?_⟩, .inr ?_⟩
  · rcases List.mem_append.mp hc with hc | hc
    · exact hrun.2 c hc
    · exact hmore c hc
  · obtain ⟨c, rest, rfl⟩ := List.exists_cons_of_ne_nil hrun.1
    exact hhead

/-- Some of the digits of a run whose first is not zero can stand before a point. -/
theorem isWhole_take (hrun : IsRun digits) (hhead : digits.head? ≠ some '0') {count : Nat}
    (hcount : 0 < count) : IsWhole (digits.take count) := by
  obtain ⟨c, rest, rfl⟩ := List.exists_cons_of_ne_nil hrun.1
  obtain ⟨count, rfl⟩ := Nat.exists_eq_succ_of_ne_zero hcount.ne'
  exact ⟨⟨by simp, fun c hc => hrun.2 c (List.mem_of_mem_take hc)⟩, .inr hhead⟩

/-! ## Parts of a number -/

theorem readWhole_append (h : IsWhole digits) (hrest : EndsDigits rest) :
    readWhole (digits ++ rest) = some (digits, rest) := by
  obtain ⟨⟨hne, hrun⟩, hhead⟩ := h
  obtain ⟨htake, hdrop⟩ := takeWhile_digits hrun hrest
  rcases hhead with rfl | hhead
  · rfl
  · obtain ⟨c, more, rfl⟩ := List.exists_cons_of_ne_nil hne
    have hc : c ≠ '0' := by simpa using hhead
    have hdigit := hrun c (by simp)
    rw [List.cons_append] at htake hdrop ⊢
    unfold readWhole
    split
    · rename_i heq
      exact absurd (List.cons.inj heq).1 hc
    · rename_i heq
      cases heq
      rw [if_pos hdigit, htake, hdrop]
    · rename_i heq
      cases heq

theorem readFraction_append (h : IsRun digits) (hrest : EndsDigits rest) :
    readFraction ('.' :: (digits ++ rest)) = some (digits, rest) := by
  obtain ⟨htake, hdrop⟩ := takeWhile_digits h.2 hrest
  have hempty : digits.isEmpty = false := by simpa using h.1
  simp only [readFraction, htake, hdrop, hempty, Bool.false_eq_true, if_false]

theorem readFraction_none (h : ∀ c, rest.head? = some c → c ≠ '.') : readFraction rest = none := by
  unfold readFraction
  split
  · exact absurd rfl (h '.' rfl)
  · rfl

theorem readExponent_append (h : IsRun digits) (negative : Bool) (hrest : EndsDigits rest) :
    readExponent ('e' :: (if negative then '-' else '+') :: (digits ++ rest)) =
      some (if negative then -(digitsValue digits : Int) else digitsValue digits, rest) := by
  obtain ⟨htake, hdrop⟩ := takeWhile_digits h.2 hrest
  have hempty : digits.isEmpty = false := by simpa using h.1
  cases negative <;>
    simp [readExponent, htake, hdrop, hempty]

theorem readExponent_none (h : EndsNumber rest) : readExponent rest = none := by
  cases rest with
  | nil => rfl
  | cons c rest =>
    have hgoes := h c rfl
    simp only [goesOn, Bool.or_eq_false_iff] at hgoes
    simp [readExponent, hgoes.1.2, hgoes.2]

/-! ## Integers -/

theorem EndsNumber.ne_point (h : EndsNumber rest) : ∀ c, rest.head? = some c → c ≠ '.' := by
  rintro c hc rfl
  exact absurd (h '.' hc) (by decide)

/-- The digits of a number that are not too many are read as the integer. -/
theorem readNumber_int (negative : Bool) (remaining : Nat) {n : Nat}
    (hlength : (Nat.toDigits 10 n).length ≤ maxDigits) (hrest : EndsNumber rest) :
    readNumber negative remaining (Nat.toDigits 10 n ++ rest) =
      .ok (.int (if negative then -n else n), rest) := by
  have hshort : ¬ maxDigits < (Nat.toDigits 10 n).length := not_lt.mpr hlength
  simp [readNumber, readWhole_append (isWhole_toDigits n) hrest.endsDigits,
    readFraction_none hrest.ne_point, readExponent_none hrest, hshort]

/-! ## Decimals -/

/-- A number with a point is read as the double next to it. -/
theorem readNumber_point (negative : Bool) (remaining : Nat) {whole places : List Char}
    (hwhole : IsWhole whole) (hplaces : IsRun places) (hrest : EndsNumber rest) :
    readNumber negative remaining (whole ++ '.' :: (places ++ rest)) =
      .ok (.float (Double.ofDecimal negative (digitsValue (whole ++ places))
        (-(places.length : Int))), rest) := by
  have hpoint : EndsDigits ('.' :: (places ++ rest)) := by
    rintro c hc
    cases hc
    decide
  simp [readNumber, readWhole_append hwhole hpoint, readFraction_append hplaces hrest.endsDigits,
    readExponent_none hrest]

/-- A number with an exponent and no point is read as the double next to it. -/
theorem readNumber_exponent (negative : Bool) (remaining : Nat) {whole power : List Char}
    (hwhole : IsWhole whole) (hpower : IsRun power) (sign : Bool) (hrest : EndsNumber rest) :
    readNumber negative remaining
        (whole ++ 'e' :: (if sign then '-' else '+') :: (power ++ rest)) =
      .ok (.float (Double.ofDecimal negative (digitsValue whole)
        (if sign then -(digitsValue power : Int) else digitsValue power)), rest) := by
  have hletter : EndsDigits ('e' :: (if sign then '-' else '+') :: (power ++ rest)) := by
    rintro c hc
    cases hc
    decide
  have hpoint : readFraction ('e' :: (if sign then '-' else '+') :: (power ++ rest)) = none := rfl
  simp [readNumber, readWhole_append hwhole hletter, hpoint,
    readExponent_append hpower sign hrest.endsDigits]

/-- A number with a point and an exponent is read as the double next to it. -/
theorem readNumber_point_exponent (negative : Bool) (remaining : Nat) {whole places power : List Char}
    (hwhole : IsWhole whole) (hplaces : IsRun places) (hpower : IsRun power) (sign : Bool)
    (hrest : EndsNumber rest) :
    readNumber negative remaining
        (whole ++ '.' :: (places ++ 'e' :: (if sign then '-' else '+') :: (power ++ rest))) =
      .ok (.float (Double.ofDecimal negative (digitsValue (whole ++ places))
        ((if sign then -(digitsValue power : Int) else digitsValue power) - places.length)),
          rest) := by
  have hletter : EndsDigits ('e' :: (if sign then '-' else '+') :: (power ++ rest)) := by
    rintro c hc
    cases hc
    decide
  have hpoint : EndsDigits
      ('.' :: (places ++ 'e' :: (if sign then '-' else '+') :: (power ++ rest))) := by
    rintro c hc
    cases hc
    decide
  simp [readNumber, readWhole_append hwhole hpoint, readFraction_append hplaces hletter,
    readExponent_append hpower sign hrest.endsDigits]

/-! ## Notations -/

theorem toList_toString (n : Nat) : (toString n).toList = Nat.toDigits 10 n := by
  rw [Nat.toString_eq_repr, Nat.toList_repr]

/-- An exponent is a sign and digits. -/
theorem exponentText_toList (e : Int) :
    ∃ power, IsRun power ∧ digitsValue power = e.natAbs ∧
      (Double.exponentText e).toList = (if e < 0 then '-' else '+') :: power := by
  have hrun := isRun_toDigits e.natAbs
  have hsign : (if e < 0 then "-" else "+").toList = [if e < 0 then '-' else '+'] := by
    split <;> rfl
  simp only [Double.exponentText, String.toList_append, hsign]
  by_cases hshort : (toString e.natAbs).length < 2
  · refine ⟨'0' :: Nat.toDigits 10 e.natAbs, ⟨by simp, ?_⟩, ?_, ?_⟩
    · rintro c (_ | ⟨_, hc⟩)
      · decide
      · exact hrun.2 c hc
    · exact (digitsValue_zeros_append 1 _).trans (digitsValue_toDigits _)
    · rw [if_pos hshort, String.toList_append, toList_toString]
      rfl
  · refine ⟨_, hrun, digitsValue_toDigits _, ?_⟩
    rw [if_neg hshort, toList_toString]
    rfl

/-- The value of an exponent from its sign and its digits. -/
theorem signed_natAbs (e : Int) :
    (if e < 0 then -(e.natAbs : Int) else (e.natAbs : Int)) = e := by
  split <;> omega

/-- Scientific notation is read as the decimal that it denotes. -/
theorem readNumber_scientific (negative : Bool) (remaining : Nat) {digits : List Char}
    (hrun : IsRun digits) (hhead : digits.head? ≠ some '0') (e : Int) (hrest : EndsNumber rest) :
    readNumber negative remaining
        ((String.ofList (digits.take 1) ++
          (if (digits.drop 1).isEmpty then "" else "." ++ String.ofList (digits.drop 1)) ++ "e" ++
          Double.exponentText e).toList ++ rest) =
      .ok (.float (Double.ofDecimal negative (digitsValue digits)
        (e - (digits.drop 1).length)), rest) := by
  have hwhole : IsWhole (digits.take 1) := isWhole_take hrun hhead Nat.one_pos
  obtain ⟨power, hpower, hvalue, htext⟩ := exponentText_toList e
  have hsign : (if e < 0 then '-' else '+') = (if decide (e < 0) then '-' else '+') := by simp
  have hshift : (if decide (e < 0) then -(digitsValue power : Int) else digitsValue power) = e := by
    rw [hvalue]
    simpa using signed_natAbs e
  have hsplit : digits.take 1 ++ digits.drop 1 = digits := List.take_append_drop 1 digits
  simp only [String.toList_append, String.toList_ofList, htext, hsign]
  -- the digits after the first one stand behind a point, if there are any
  by_cases hone : digits.drop 1 = []
  · have hread := readNumber_exponent negative remaining hwhole hpower (decide (e < 0)) hrest
    rw [hone, List.append_nil] at hsplit
    rw [hshift, hsplit] at hread
    rw [hone, hsplit]
    simpa using hread
  · have hplaces : IsRun (digits.drop 1) := ⟨hone, fun c hc => hrun.2 c (List.mem_of_mem_drop hc)⟩
    have hread := readNumber_point_exponent negative remaining hwhole hplaces hpower
      (decide (e < 0)) hrest
    rw [hshift, hsplit] at hread
    have hempty : (digits.drop 1).isEmpty = false := by simpa using hone
    rw [hempty]
    simpa using hread

/-- Zeros after the point, before the digits. -/
theorem readNumber_small (negative : Bool) (remaining : Nat) {digits : List Char} (hrun : IsRun digits)
    (zeros : Nat) (hrest : EndsNumber rest) :
    readNumber negative remaining
        (("0." ++ String.ofList (List.replicate zeros '0') ++ String.ofList digits).toList ++ rest) =
      .ok (.float (Double.ofDecimal negative (digitsValue digits)
        (-((zeros + digits.length : Nat) : Int))), rest) := by
  have hplaces : IsRun (List.replicate zeros '0' ++ digits) := by
    refine ⟨by simp [hrun.1], fun c hc => ?_⟩
    rcases List.mem_append.mp hc with hc | hc
    · rw [(List.mem_replicate.mp hc).2]
      decide
    · exact hrun.2 c hc
  have hread := readNumber_point negative remaining (isWhole_toDigits 0) hplaces hrest
  have hvalue : digitsValue (['0'] ++ (List.replicate zeros '0' ++ digits)) = digitsValue digits := by
    rw [← List.append_assoc]
    exact digitsValue_zeros_append (zeros + 1) digits
  rw [Nat.toDigits_zero, hvalue, List.length_append, List.length_replicate] at hread
  simpa [String.toList_append] using hread

/-- Zeros after the digits, and one place after the point. -/
theorem readNumber_large (negative : Bool) (remaining : Nat) {digits : List Char}
    (hrun : IsRun digits) (hhead : digits.head? ≠ some '0') (zeros : Nat) (hrest : EndsNumber rest) :
    readNumber negative remaining
        ((String.ofList digits ++ String.ofList (List.replicate zeros '0') ++ ".0").toList ++ rest) =
      .ok (.float (Double.ofDecimal negative (digitsValue digits) zeros), rest) := by
  have hzeros : ∀ c ∈ List.replicate zeros '0', isAsciiDigit c = true := by
    intro c hc
    rw [(List.mem_replicate.mp hc).2]
    decide
  have hread := readNumber_point negative remaining (isWhole_append hrun hhead hzeros)
    (isRun_toDigits 0) hrest
  have hvalue : digitsValue (digits ++ List.replicate zeros '0' ++ ['0']) =
      digitsValue digits * 10 ^ (zeros + 1) := by
    rw [List.append_assoc]
    exact (congrArg (fun zeros => digitsValue (digits ++ zeros)) List.replicate_succ'.symm).trans
      (digitsValue_append_zeros digits (zeros + 1))
  rw [Nat.toDigits_zero, hvalue, Double.ofDecimal_mul_pow] at hread
  have hexponent : -((['0'].length : Nat) : Int) + ((zeros + 1 : Nat) : Int) = zeros := by
    simp only [List.length_singleton]
    omega
  rw [hexponent] at hread
  simpa [String.toList_append] using hread

/-- A point among the digits. -/
theorem readNumber_middle (negative : Bool) (remaining : Nat) {digits : List Char}
    (hrun : IsRun digits) (hhead : digits.head? ≠ some '0') {count : Nat} (hcount : 0 < count)
    (hless : count < digits.length) (hrest : EndsNumber rest) :
    readNumber negative remaining
        ((String.ofList (digits.take count) ++ "." ++ String.ofList (digits.drop count)).toList ++
          rest) =
      .ok (.float (Double.ofDecimal negative (digitsValue digits)
        (-((digits.length - count : Nat) : Int))), rest) := by
  have hplaces : IsRun (digits.drop count) :=
    ⟨by simpa using hless, fun c hc => hrun.2 c (List.mem_of_mem_drop hc)⟩
  have hread := readNumber_point negative remaining (isWhole_take hrun hhead hcount) hplaces hrest
  rw [List.take_append_drop, List.length_drop] at hread
  simpa [String.toList_append] using hread

/-- The text of a decimal is read as the double next to it. -/
theorem readNumber_text (negative : Bool) (remaining : Nat) {d : Double.Decimal} (hd : 0 < d.digits)
    (hrest : EndsNumber rest) :
    readNumber negative remaining (d.text.toList ++ rest) =
      .ok (.float (Double.ofDecimal negative d.digits d.exponent), rest) := by
  have hrun := isRun_toDigits d.digits
  have hhead := head?_toDigits_ne_zero hd
  have hvalue := digitsValue_toDigits d.digits
  have hcount : 0 < (Nat.toDigits 10 d.digits).length := List.length_pos_iff.mpr hrun.1
  rw [Double.Decimal.text]
  simp only [toList_toString]
  -- from here on the digits are any run that does not begin with zero
  generalize Nat.toDigits 10 d.digits = digits at *
  rw [← hvalue]
  split
  · rw [readNumber_scientific negative remaining hrun hhead _ hrest]
    congr 4
    simp only [List.length_drop, Int.ofNat_eq_natCast]
    omega
  · split
    · rw [readNumber_small negative remaining hrun _ hrest]
      congr 4
      simp only [Int.ofNat_eq_natCast] at *
      omega
    · split
      · rw [readNumber_large negative remaining hrun hhead _ hrest]
        congr 4
        simp only [Int.ofNat_eq_natCast] at *
        omega
      · rw [readNumber_middle negative remaining hrun hhead _ _ hrest]
        · congr 4
          simp only [Int.ofNat_eq_natCast] at *
          omega
        · simp only [Int.ofNat_eq_natCast] at *
          omega
        · simp only [Int.ofNat_eq_natCast] at *
          omega

end Ambient.Json
