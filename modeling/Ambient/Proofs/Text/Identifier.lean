/-
  Ambient.Proofs.Text.Identifier

  ASCII identifiers, alone and with dots between them, and what lower case does to the characters
  that names are made of. Lower case makes of another character none that stands before `a`, so no
  line break and no underscore.
-/
import Ambient.Text.Case
import Ambient.Text.Split

namespace Ambient.Text

/-! ## Identifiers -/

/-- A character that can begin an ASCII identifier. -/
def isNameStart (c : Char) : Bool :=
  isAsciiLetter c || c == '_' || c == '$'

/-- A character that an ASCII identifier can go on with. -/
def isNameChar (c : Char) : Bool :=
  isNameStart c || isAsciiDigit c

/-- Whether a text is an ASCII identifier. -/
def isIdentifier : List Char → Bool
  | [] => false
  | first :: rest => isNameStart first && rest.all isNameChar

/-- Whether a text is made of ASCII identifiers with a dot between each two. -/
def isDotted (text : List Char) : Bool :=
  (splitOn '.' text).all isIdentifier

theorem isIdentifier_cons {first : Char} {rest : List Char} :
    isIdentifier (first :: rest) = true ↔
      isNameStart first = true ∧ ∀ c ∈ rest, isNameChar c = true := by
  simp [isIdentifier]

theorem isNameChar_of_isNameStart {c : Char} (h : isNameStart c = true) : isNameChar c = true := by
  simp [isNameChar, h]

theorem isNameChar_of_mem {name : List Char} (h : isIdentifier name = true) {c : Char}
    (hc : c ∈ name) : isNameChar c = true := by
  cases name with
  | nil => simp at hc
  | cons first rest =>
    obtain ⟨hfirst, hrest⟩ := isIdentifier_cons.mp h
    rcases List.mem_cons.mp hc with rfl | hmem
    · exact isNameChar_of_isNameStart hfirst
    · exact hrest c hmem

theorem forall_isNameChar {name : List Char} (h : isIdentifier name = true) :
    ∀ c ∈ name, isNameChar c = true :=
  fun _ hc => isNameChar_of_mem h hc

/-- Where the characters of identifiers lie. -/
theorem toNat_of_isNameChar {c : Char} (h : isNameChar c = true) :
    c.toNat = 36 ∨ 48 ≤ c.toNat ∧ c.toNat ≤ 57 ∨ 65 ≤ c.toNat ∧ c.toNat ≤ 90 ∨ c.toNat = 95 ∨
      97 ≤ c.toNat ∧ c.toNat ≤ 122 := by
  have h' : ((('a'.toNat ≤ c.toNat ∧ c.toNat ≤ 'z'.toNat) ∨
      ('A'.toNat ≤ c.toNat ∧ c.toNat ≤ 'Z'.toNat)) ∨ c = '_' ∨ c = '$') ∨
        ('0'.toNat ≤ c.toNat ∧ c.toNat ≤ '9'.toNat) := by
    simpa [isNameChar, isNameStart, isAsciiLetter, isAsciiLower, isAsciiUpper, isAsciiDigit,
      or_assoc] using h
  rcases h' with ((hlower | hupper) | rfl | rfl) | hdigit
  · exact .inr (.inr (.inr (.inr hlower)))
  · exact .inr (.inr (.inl hupper))
  · decide
  · decide
  · exact .inr (.inl hdigit)

/-- No character of an identifier is a blank. -/
theorem isBlank_of_isNameChar {c : Char} (h : isNameChar c = true) : isBlank c = false := by
  have hrange := toNat_of_isNameChar h
  rw [← Bool.not_eq_true]
  intro hblank
  simp only [isBlank, Bool.or_eq_true, Bool.and_eq_true, decide_eq_true_eq, beq_iff_eq] at hblank
  omega

/-- Between the dots of a dotted name stand the characters of identifiers. -/
theorem isNameChar_or_dot_of_mem {name : List Char} (h : isDotted name = true) {c : Char}
    (hc : c ∈ name) : isNameChar c = true ∨ c = '.' := by
  -- the name is cut at its dots and joined again
  rw [← joinWith_splitOn '.' name] at hc
  have hpieces : ∀ piece ∈ splitOn '.' name, isIdentifier piece = true := by
    simpa [isDotted] using h
  generalize splitOn '.' name = pieces at hc hpieces
  induction pieces with
  | nil => simp [joinWith] at hc
  | cons piece rest ih =>
    have hpiece := hpieces piece (by simp)
    have hrest : ∀ p ∈ rest, isIdentifier p = true := fun p hp => hpieces p (by simp [hp])
    cases rest with
    | nil => exact .inl (isNameChar_of_mem hpiece hc)
    | cons next more =>
      simp only [joinWith, List.append_assoc, List.mem_append, List.mem_singleton] at hc
      rcases hc with hc | hc | hc
      · exact .inl (isNameChar_of_mem hpiece hc)
      · exact .inr hc
      · exact ih hc hrest

/-- A dotted name begins like an identifier. -/
theorem exists_cons_of_isDotted {name : List Char} (h : isDotted name = true) :
    ∃ first rest, name = first :: rest ∧ isNameStart first = true := by
  cases name with
  | nil => exact absurd h (by decide)
  | cons first rest =>
    refine ⟨first, rest, rfl, ?_⟩
    -- a dot in front would cut off an empty piece, which is no identifier
    by_cases hdot : first = '.'
    · simp [isDotted, splitOn, hdot, isIdentifier] at h
    · cases hcut : splitOn '.' rest with
      | nil => exact absurd hcut (splitOn_ne_nil _ _)
      | cons piece pieces =>
        have h' : isIdentifier (first :: piece) = true := by
          simp [isDotted, splitOn, hdot, hcut] at h
          exact h.1
        exact (isIdentifier_cons.mp h').1

/-! ## Lower case -/

/-- The lower-case forms of other characters are characters, and none of them stands before `a`. -/
theorem lowerRanges_bounds :
    lowerRanges.all (fun r => decide (97 ≤ (r.first : Int) + r.offset ∧
      ((r.last : Int) + r.offset < 0xD800 ∨
        0xDFFF < (r.first : Int) + r.offset ∧ (r.last : Int) + r.offset < 0x110000))) = true := by
  decide +kernel

theorem caseOffset?_bounds {n offset : Nat} (h : caseOffset? lowerRanges n = some offset) :
    97 ≤ offset ∧ offset.isValidChar := by
  obtain ⟨r, hr, rfl⟩ := Option.map_eq_some_iff.mp h
  have hmem := List.mem_of_find?_eq_some hr
  have hin := List.find?_some hr
  have hbounds := List.all_eq_true.mp lowerRanges_bounds r hmem
  simp only [Bool.and_eq_true, decide_eq_true_eq] at hin hbounds
  -- a range moves all of its characters by one offset
  have hfirst : (r.first : Int) ≤ Int.ofNat n := Int.ofNat_le.mpr hin.1.1
  have hlast : Int.ofNat n ≤ (r.last : Int) := Int.ofNat_le.mpr hin.1.2
  refine ⟨by omega, ?_⟩
  rcases hbounds.2 with hlow | hhigh
  · exact .inl (by omega)
  · exact .inr ⟨by omega, by omega⟩

theorem toNat_ofNat {n : Nat} (h : n.isValidChar) : (Char.ofNat n).toNat = n := by
  rw [Char.ofNat, dif_pos h]
  rfl

/-- A lower-case form is the character itself or does not stand before `a`. -/
theorem mem_lowerChar {c d : Char} (h : d ∈ lowerChar c) : d = c ∨ 97 ≤ d.toNat := by
  unfold lowerChar at h
  split at h
  · split at h
    · -- ASCII capitals
      rename_i hupper
      simp only [isAsciiUpper, Bool.and_eq_true, decide_eq_true_eq] at hupper
      have hA : 65 ≤ c.toNat := hupper.1
      have hZ : c.toNat ≤ 90 := hupper.2
      rw [List.mem_singleton.mp h, toNat_ofNat (.inl (by omega))]
      exact .inr (by omega)
    · exact .inl (List.mem_singleton.mp h)
  · split at h
    · rcases List.mem_cons.mp h with rfl | hmark
      · exact .inr (by decide)
      · rw [List.mem_singleton.mp hmark]
        exact .inr (by decide)
    · cases hcase : caseOffset? lowerRanges c.toNat with
      | none =>
        rw [hcase] at h
        exact .inl (List.mem_singleton.mp h)
      | some offset =>
        obtain ⟨hlow, hvalid⟩ := caseOffset?_bounds hcase
        rw [hcase] at h
        rw [List.mem_singleton.mp h, Option.map_some, Option.getD_some, toNat_ofNat hvalid]
        exact .inr hlow

/-- A character before `a` is no lower-case form of another one. -/
theorem notMem_lowerChar {c d : Char} (hd : d.toNat < 97) (h : c ≠ d) : d ∉ lowerChar c := by
  intro hmem
  rcases mem_lowerChar hmem with heq | hlow
  · exact h heq.symm
  · omega

/-- The lower-case form of the first character of a text. -/
theorem lower_singleton {c : Char} (h : c ≠ 'Σ') : lower [c] = lowerChar c := by
  simp [lower, lowerAfter, h]

theorem break_notMem_lower_singleton {c : Char} (h : c ≠ '\n') : '\n' ∉ lower [c] := by
  by_cases hs : c = 'Σ'
  · subst hs
    decide
  · rw [lower_singleton hs]
    exact notMem_lowerChar (by decide) h

/-- The lower-case form of what begins a name begins a name. -/
theorem lower_singleton_of_isNameStart {c : Char} (h : isNameStart c = true) :
    ∃ d, lower [c] = [d] ∧ isNameStart d = true := by
  have hascii : c.toNat < 128 := by
    simp only [isNameStart, isAsciiLetter, isAsciiLower, isAsciiUpper, Bool.or_eq_true,
      Bool.and_eq_true, decide_eq_true_eq, beq_iff_eq] at h
    rcases h with ((⟨-, hz⟩ | ⟨-, hz⟩) | rfl) | rfl
    · exact Nat.lt_of_le_of_lt hz (by decide)
    · exact Nat.lt_of_le_of_lt hz (by decide)
    · decide
    · decide
  have hs : c ≠ 'Σ' := by
    rintro rfl
    exact absurd hascii (by decide)
  rw [lower_singleton hs, lowerChar, if_pos hascii]
  refine ⟨_, rfl, ?_⟩
  split
  · -- a capital goes to the small letter 32 places on
    rename_i hupper
    simp only [isAsciiUpper, Bool.and_eq_true, decide_eq_true_eq] at hupper
    have h1 : 65 ≤ c.toNat := hupper.1
    have h2 : c.toNat ≤ 90 := hupper.2
    have hval : (Char.ofNat (c.toNat + 32)).toNat = c.toNat + 32 :=
      toNat_ofNat (.inl (by omega))
    have hlower : isAsciiLower (Char.ofNat (c.toNat + 32)) = true := by
      simp only [isAsciiLower, hval, Bool.and_eq_true, decide_eq_true_eq]
      exact ⟨show 97 ≤ _ by omega, show _ ≤ 122 by omega⟩
    simp [isNameStart, isAsciiLetter, hlower]
  · exact h

end Ambient.Text
