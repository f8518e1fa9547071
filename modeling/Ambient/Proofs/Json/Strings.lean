/-
  Ambient.Proofs.Json.Strings

  Strings of documents read back. Each character is written as itself or as an escape of which the
  reader makes that character again, so a string in quotes is read as the string
  (`readString_stringChars`).
-/
import Ambient.Json.Reader
import Ambient.Json.Writer
import Mathlib.Tactic.Common

namespace Ambient.Json

open Text

/-- What is written for a character inside quotes. -/
def charText (c : Char) : List Char :=
  (escape? c).getD [c]

/-- What is written for characters inside quotes. -/
def stringChars (chars : List Char) : List Char :=
  chars.flatMap charText

theorem toList_stringText (s : String) :
    (stringText s).toList = '"' :: (stringChars s.toList ++ ['"']) := by
  have hchars : (fun c => (escape? c).getD [c]) = charText := rfl
  simp [stringText, stringWith, hchars, stringChars]

/-! ## One character -/

/-- The four hexadecimal digits of a control character denote it. -/
theorem unitValue?_control : ∀ n < 32,
    hexPadded 4 n = ['0', '0', Nat.digitChar (n / 16), Nat.digitChar (n % 16)] ∧
      unitValue? '0' '0' (Nat.digitChar (n / 16)) (Nat.digitChar (n % 16)) = some n := by
  decide

/-- The ways in which a character is written: as itself, as a letter after a backslash, or as the
number of a control character. -/
theorem charText_cases (c : Char) :
    (charText c = [c] ∧ c ≠ '"' ∧ c ≠ '\\' ∧ ¬ c.toNat < 32) ∨
      (∃ letter, charText c = ['\\', letter] ∧ letter ≠ 'u' ∧ simpleEscape? letter = some c) ∨
      charText c = '\\' :: 'u' :: hexPadded 4 c.toNat ∧ c.toNat < 32 := by
  have hofNat : ∀ n, c.toNat = n → c = Char.ofNat n := by
    rintro n rfl
    exact (Char.ofNat_toNat c).symm
  rw [charText, escape?]
  -- in the order in which the writer looks for an escape
  by_cases hquote : c = '"'
  · subst hquote
    exact .inr (.inl ⟨'"', rfl, by decide, rfl⟩)
  by_cases hbackslash : c = '\\'
  · subst hbackslash
    exact .inr (.inl ⟨'\\', rfl, by decide, rfl⟩)
  by_cases hfeed : c = '\n'
  · subst hfeed
    exact .inr (.inl ⟨'n', rfl, by decide, rfl⟩)
  by_cases hreturn : c = '\r'
  · subst hreturn
    exact .inr (.inl ⟨'r', rfl, by decide, rfl⟩)
  by_cases htab : c = '\t'
  · subst htab
    exact .inr (.inl ⟨'t', rfl, by decide, rfl⟩)
  by_cases hback : c.toNat = 8
  · rw [hofNat 8 hback]
    exact .inr (.inl ⟨'b', rfl, by decide, rfl⟩)
  by_cases hform : c.toNat = 12
  · rw [hofNat 12 hform]
    exact .inr (.inl ⟨'f', rfl, by decide, rfl⟩)
  by_cases hcontrol : c.toNat < 32
  · refine .inr (.inr ⟨?_, hcontrol⟩)
    simp [hquote, hbackslash, hfeed, hreturn, htab, hback, hform, hcontrol]
  · refine .inl ⟨?_, hquote, hbackslash, hcontrol⟩
    simp [hquote, hbackslash, hfeed, hreturn, htab, hback, hform, hcontrol]

/-- A number escape is read as the control character, if something follows. -/
theorem readUnit_control {c : Char} (h : c.toNat < 32) {rest : List Char} (hrest : rest ≠ []) :
    readUnit (hexPadded 4 c.toNat ++ rest) = .ok (c, rest) := by
  obtain ⟨hdigits, hvalue⟩ := unitValue?_control c.toNat h
  have hempty : rest.isEmpty = false := by simpa using hrest
  have hhigh : isHighUnit c.toNat = false := by simp [isHighUnit]; omega
  have hlow : isLowUnit c.toNat = false := by simp [isLowUnit]; omega
  rw [hdigits]
  simp only [List.cons_append, List.nil_append, readUnit, hempty, hvalue, hhigh,
    Bool.false_eq_true, if_false, unitChar, hlow, Bool.or_self, Char.ofNat_toNat]

/-- A character is read as it was written. -/
theorem readString_charText (opening fuel : Nat) (c : Char) {rest : List Char} (hrest : rest ≠ []) :
    readString opening (fuel + 1) (charText c ++ rest) = (do
      let (chars, after) ← readString opening fuel rest
      .ok (c :: chars, after)) := by
  rcases charText_cases c with ⟨htext, hquote, hbackslash, hcontrol⟩ | ⟨letter, htext, hu, hread⟩ |
    ⟨htext, hcontrol⟩ <;> rw [htext]
  · simp [readString, hquote, hbackslash, hcontrol]
  · rw [List.cons_append, List.cons_append, List.nil_append, readString, if_neg (by decide),
      if_pos (by decide)]
    · rw [hread]
    · exact hu
  · rw [List.cons_append, List.cons_append, readString, if_neg (by decide), if_pos (by decide)]
    show (readUnit (hexPadded 4 c.toNat ++ rest) >>= _) = _
    rw [readUnit_control hcontrol hrest]
    rfl

/-! ## Strings -/

theorem length_le_stringChars (chars : List Char) : chars.length ≤ (stringChars chars).length := by
  induction chars with
  | nil => exact Nat.le_refl _
  | cons c rest ih =>
    have hpos : 0 < (charText c).length := by
      rcases charText_cases c with ⟨htext, -⟩ | ⟨letter, htext, -⟩ | ⟨htext, -⟩ <;> simp [htext]
    rw [stringChars, List.flatMap_cons, List.length_append, List.length_cons]
    exact Nat.add_comm _ _ ▸ Nat.add_le_add hpos ih

/-- The characters between quotes are read as the string. -/
theorem readString_stringChars (opening : Nat) {fuel : Nat} {chars : List Char}
    (hfuel : chars.length < fuel) (rest : List Char) :
    readString opening fuel (stringChars chars ++ '"' :: rest) = .ok (chars, rest) := by
  induction chars generalizing fuel with
  | nil =>
    obtain ⟨fuel, rfl⟩ := Nat.exists_eq_succ_of_ne_zero (Nat.ne_of_gt hfuel)
    rfl
  | cons c chars ih =>
    obtain ⟨fuel, rfl⟩ := Nat.exists_eq_succ_of_ne_zero (Nat.ne_of_gt (Nat.zero_lt_of_lt hfuel))
    have hne : stringChars chars ++ '"' :: rest ≠ [] := by simp
    have hread := readString_charText opening fuel c hne
    rw [ih (by simpa using hfuel), ← List.append_assoc] at hread
    exact hread

end Ambient.Json
