/-
  Ambient.Proofs.Text.Words

  What the snake style keeps of a name. Boundaries between words only put underscores in and take
  hyphens and blanks out, and lower case treats each character by itself but for the two forms of the
  small sigma. So without its underscores a name in the snake style is the name without any separator
  in lower case, save for the form of a sigma (`map_medial_filter_snakeCase`).
-/
import Ambient.Text.Words
import Ambient.Proofs.Text.Identifier

namespace Ambient.Text

/-! ## Boundaries -/

/-- Whether a character stands for itself in a name; hyphens, blanks and underscores separate words. -/
def isKeyChar (c : Char) : Bool :=
  !isWordGap c && c != '_'

theorem filter_splitCapitalised (name : List Char) :
    (splitCapitalised name).filter (· != '_') = name.filter (· != '_') := by
  fun_induction splitCapitalised name with
  | case1 c upper lower rest _ ih =>
    -- the letters of the word are passed over and put back
    have hletters := congrArg (List.filter (· != '_'))
      (List.takeWhile_append_dropWhile (p := isAsciiLower) (l := lower :: rest))
    rw [List.filter_append] at hletters
    simp only [List.filter_cons, List.filter_append, ih, hletters]
    simp
  | case2 c upper lower rest _ ih => simp only [List.filter_cons, ih]
  | case3 text _ => rfl

theorem filter_splitHumps (name : List Char) :
    (splitHumps name).filter (· != '_') = name.filter (· != '_') := by
  induction name with
  | nil => rfl
  | cons c rest ih =>
    cases rest with
    | nil => rfl
    | cons upper more =>
      rw [splitHumps]
      split
      · simp only [List.filter_cons, ih]
        simp
      · simp only [List.filter_cons, ih]

/-- Gaps are taken out, whatever stands in their place. -/
theorem filter_closeGaps (inGap : Bool) (name : List Char) :
    (closeGaps inGap name).filter (· != '_') = name.filter isKeyChar := by
  induction name generalizing inGap with
  | nil => rfl
  | cons c rest ih =>
    rw [closeGaps]
    split
    · rename_i hgap
      cases inGap <;> simp [isKeyChar, hgap, ih]
    · rename_i hgap
      simp only [List.filter_cons, ih, isKeyChar]
      simp [hgap]

/-! ## Lower case -/

/-- Away from the capital sigma, whose lower case depends on what stands around it, lower case goes
character by character. -/
theorem lowerAfter_of_notMem {text : List Char} (h : 'Σ' ∉ text) (before : List Char) :
    lowerAfter before text = text.flatMap lowerChar := by
  induction text generalizing before with
  | nil => rfl
  | cons c rest ih =>
    obtain ⟨hc, hrest⟩ := List.ne_and_not_mem_of_not_mem_cons h
    rw [lowerAfter, if_neg (by simpa using Ne.symm hc), ih hrest, List.flatMap_cons]

/-- The small sigma in the form that it has within a word; other characters have one form. -/
def medial (c : Char) : Char :=
  if c = 'ς' then 'σ' else c

/-- Lower case of one character, whatever stands around it. -/
def lowerMedial (c : Char) : List Char :=
  if c = 'Σ' then ['σ'] else (lowerChar c).map medial

theorem medial_eq_iff {c d : Char} (hd : d ≠ 'σ') (hd' : d ≠ 'ς') : medial c = d ↔ c = d := by
  unfold medial
  split
  · rename_i hc
    rw [hc]
    exact ⟨fun h => absurd h.symm hd, fun h => absurd h.symm hd'⟩
  · rfl

/-- Texts without a small sigma are told from all others even if its two forms are not told apart. -/
theorem map_medial_eq_iff {text : List Char} (h : ∀ c ∈ text, c ≠ 'σ' ∧ c ≠ 'ς')
    (other : List Char) : other.map medial = text ↔ other = text := by
  induction other generalizing text with
  | nil => rw [List.map_nil]
  | cons d rest ih =>
    cases text with
    | nil => simp
    | cons c more =>
      obtain ⟨hc, hc'⟩ := h c (by simp)
      rw [List.map_cons, List.cons_eq_cons, List.cons_eq_cons, medial_eq_iff hc hc',
        ih fun x hx => h x (by simp [hx])]

/-- But for the form of a small sigma, lower case goes character by character. -/
theorem map_medial_lowerAfter (before text : List Char) :
    (lowerAfter before text).map medial = text.flatMap lowerMedial := by
  induction text generalizing before with
  | nil => rfl
  | cons c rest ih =>
    rw [lowerAfter, List.map_append, ih, List.flatMap_cons, lowerMedial]
    by_cases hsigma : c = 'Σ'
    · rw [if_pos (by simp [hsigma]), if_pos hsigma, lowerSigma]
      split <;> rfl
    · rw [if_neg (by simpa using hsigma), if_neg hsigma]

theorem map_medial_lower (text : List Char) : (lower text).map medial = text.flatMap lowerMedial :=
  map_medial_lowerAfter [] text

theorem filter_lowerMedial (c : Char) :
    (lowerMedial c).filter (· != '_') = if c = '_' then [] else lowerMedial c := by
  split
  · rename_i hc
    rw [hc]
    decide
  · rename_i hc
    rw [List.filter_eq_self]
    intro d hd
    simp only [bne_iff_ne, ne_eq]
    rintro rfl
    unfold lowerMedial at hd
    split at hd
    · exact absurd hd (by decide)
    · obtain ⟨e, he, hmedial⟩ := List.mem_map.mp hd
      rw [(medial_eq_iff (by decide) (by decide)).mp hmedial] at he
      exact notMem_lowerChar (by decide) hc he

/-- Underscores can be taken out before lower case or after it. -/
theorem filter_flatMap_lowerMedial (text : List Char) :
    (text.flatMap lowerMedial).filter (· != '_') = (text.filter (· != '_')).flatMap lowerMedial := by
  induction text with
  | nil => rfl
  | cons c rest ih =>
    rw [List.flatMap_cons, List.filter_append, ih, filter_lowerMedial, List.filter_cons]
    by_cases hc : c = '_' <;> simp [hc]

/-- Without underscores, a name in the snake style is the name without separators in lower case, save
for the form of a small sigma: a separator can end the word that it stands in. -/
theorem map_medial_filter_snakeCase (name : List Char) :
    ((snakeCase name).filter (· != '_')).map medial =
      (lower (name.filter isKeyChar)).map medial := by
  have hunder : ∀ text : List Char,
      (text.filter (· != '_')).map medial = (text.map medial).filter (· != '_') := by
    intro text
    rw [List.filter_map]
    congr 1
    refine List.filter_congr fun c _ => ?_
    have hsame := medial_eq_iff (c := c) (d := '_') (by decide) (by decide)
    rw [Function.comp_apply, Bool.eq_iff_iff, bne_iff_ne, bne_iff_ne, ne_eq, ne_eq, hsame]
  rw [hunder, snakeCase, map_medial_lower, filter_flatMap_lowerMedial, map_medial_lower]
  congr 1
  -- the underscores and gaps go, and nothing else was put in
  rw [filter_closeGaps]
  have hkey : ∀ text : List Char, text.filter isKeyChar =
      (text.filter (· != '_')).filter fun c => !isWordGap c := by
    intro text
    rw [List.filter_filter]
    rfl
  rw [hkey, filter_splitHumps, filter_splitCapitalised, ← hkey]

end Ambient.Text
