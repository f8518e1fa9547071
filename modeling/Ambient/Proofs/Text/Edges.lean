/-
  Ambient.Proofs.Text.Edges

  The ends of texts. What is dropped at an end is a run of characters of a class, so what is left is a
  piece of the text that does not end in the class; where the class holds blanks only, the characters
  that are no blanks all stay (`blacks_trim`).
-/
import Ambient.Text.Edges
import Mathlib.Data.List.Basic

namespace Ambient.Text

/-! ## Ends of texts -/

theorem dropEndWhile_append_singleton {p : Char → Bool} {c : Char} (h : p c = false)
    (t : List Char) : dropEndWhile p (t ++ [c]) = t ++ [c] := by
  induction t with
  | nil => simp [dropEndWhile, h]
  | cons d rest ih =>
    rw [List.cons_append, dropEndWhile, ih]
    cases rest <;> rfl

/-- Characters of the class at the end are dropped first. -/
theorem dropEndWhile_append {p : Char → Bool} {s : List Char} (h : ∀ c ∈ s, p c = true)
    (t : List Char) : dropEndWhile p (t ++ s) = dropEndWhile p t := by
  induction t with
  | nil =>
    rw [List.nil_append, (dropEndWhile_eq_nil_iff p s).mpr (List.all_eq_true.mpr h)]
    rfl
  | cons d rest ih => rw [List.cons_append, dropEndWhile, dropEndWhile, ih]

/-- A text that does not end in a blank. -/
def EndsInBlack (t : List Char) : Prop :=
  ∃ s c, t = s ++ [c] ∧ isBlank c = false

theorem EndsInBlack.dropEndWhile {p : Char → Bool} (hp : ∀ c, p c = true → isBlank c = true)
    {t : List Char} (h : EndsInBlack t) : dropEndWhile p t = t := by
  obtain ⟨s, c, rfl, hc⟩ := h
  refine dropEndWhile_append_singleton ?_ s
  rw [← Bool.not_eq_true]
  intro hpc
  rw [hp c hpc] at hc
  cases hc

/-- What stands before the end does not matter. -/
theorem EndsInBlack.append {t : List Char} (h : EndsInBlack t) (s : List Char) :
    EndsInBlack (s ++ t) := by
  obtain ⟨u, c, rfl, hc⟩ := h
  exact ⟨s ++ u, c, by rw [List.append_assoc], hc⟩

theorem EndsInBlack.append_string {s t : String} (h : EndsInBlack t.toList) :
    EndsInBlack (s ++ t).toList := by
  rw [String.toList_append]
  exact h.append s.toList

theorem EndsInBlack.of_forall {t : List Char} (hne : t ≠ []) (h : ∀ c ∈ t, isBlank c = false) :
    EndsInBlack t :=
  ⟨t.dropLast, t.getLast hne, (List.dropLast_concat_getLast hne).symm, h _ (List.getLast_mem hne)⟩

theorem EndsInBlack.ne_nil {t : List Char} (h : EndsInBlack t) : t ≠ [] := by
  obtain ⟨s, c, rfl, -⟩ := h
  simp

/-! ## What is left at the ends -/

theorem isPrefix_dropEndWhile (p : Char → Bool) (text : List Char) :
    dropEndWhile p text <+: text := by
  induction text with
  | nil => exact List.prefix_refl []
  | cons c rest ih =>
    rw [dropEndWhile]
    split
    · split
      · exact List.nil_prefix
      · exact List.prefix_append [c] rest
    · exact (List.prefix_cons_inj c).mpr ih

/-- What is left does not end in a character of the class. -/
theorem getLast?_dropEndWhile (p : Char → Bool) (text : List Char) :
    ∀ c ∈ (dropEndWhile p text).getLast?, p c = false := by
  induction text with
  | nil => simp [dropEndWhile]
  | cons c rest ih =>
    rw [dropEndWhile]
    cases hkept : dropEndWhile p rest with
    | nil => by_cases hc : p c <;> simp [hc]
    | cons d kept =>
      rw [hkept] at ih
      simpa using ih

/-- A text that does not end in a character of the class is left as it is. -/
theorem dropEndWhile_of_getLast? {p : Char → Bool} {text : List Char}
    (h : ∀ c ∈ text.getLast?, p c = false) : dropEndWhile p text = text := by
  rcases List.eq_nil_or_concat text with rfl | ⟨front, last, rfl⟩
  · rfl
  · rw [List.concat_eq_append] at h ⊢
    exact dropEndWhile_append_singleton (h last (by simp)) front

theorem isInfix_trim (text : List Char) : trim text <:+: text :=
  (isPrefix_dropEndWhile isBlank _).isInfix.trans (List.dropWhile_suffix isBlank).isInfix

/-! ## Characters that are no blanks -/

/-- The characters of a text that are no blanks, in their order. -/
def blacks (text : List Char) : List Char :=
  text.filter fun c => !isBlank c

@[simp] theorem blacks_append (front back : List Char) :
    blacks (front ++ back) = blacks front ++ blacks back :=
  List.filter_append ..

theorem blacks_cons_of_blank {c : Char} (h : isBlank c = true) (rest : List Char) :
    blacks (c :: rest) = blacks rest :=
  List.filter_cons_of_neg (by simp [h])

theorem blacks_cons_congr (c : Char) {first second : List Char} (h : blacks first = blacks second) :
    blacks (c :: first) = blacks (c :: second) := by
  rw [← List.singleton_append, ← List.singleton_append (l := second), blacks_append, blacks_append, h]

theorem blacks_of_allBlank {text : List Char} (h : allBlank text = true) : blacks text = [] := by
  rw [blacks, List.filter_eq_nil_iff]
  intro c hc
  simp [List.all_eq_true.mp h c hc]

theorem length_blacks_le {part text : List Char} (h : part.Sublist text) :
    (blacks part).length ≤ (blacks text).length :=
  (h.filter _).length_le

/-- A piece with a character that is no blank makes a text longer by more than blanks. -/
theorem length_blacks_lt {front : List Char} {c : Char} (hc : c ∈ front)
    (hblack : isBlank c = false) (back : List Char) :
    (blacks back).length < (blacks (front ++ back)).length := by
  have hmem : c ∈ blacks front := List.mem_filter.mpr ⟨hc, by simp [hblack]⟩
  have hpos := List.length_pos_of_mem hmem
  rw [blacks_append, List.length_append]
  omega

/-! ## Blanks at the ends -/

theorem blacks_dropWhile {p : Char → Bool} (hp : ∀ c, p c = true → isBlank c = true)
    (text : List Char) : blacks (text.dropWhile p) = blacks text := by
  induction text with
  | nil => rfl
  | cons c rest ih =>
    rw [List.dropWhile_cons]
    split
    · rename_i hc
      rw [ih, blacks_cons_of_blank (hp c hc)]
    · rfl

theorem blacks_dropEndWhile {p : Char → Bool} (hp : ∀ c, p c = true → isBlank c = true)
    (text : List Char) : blacks (dropEndWhile p text) = blacks text := by
  induction text with
  | nil => rfl
  | cons c rest ih =>
    rw [dropEndWhile]
    split
    · rename_i hnone
      rw [hnone] at ih
      split
      · rename_i hc
        rw [blacks_cons_of_blank (hp c hc), ← ih]
      · exact blacks_cons_congr c ih
    · exact blacks_cons_congr c ih

theorem blacks_trim (text : List Char) : blacks (trim text) = blacks text := by
  rw [trim, trimEnd, blacks_dropEndWhile fun _ h => h, blacks_dropWhile fun _ h => h]

end Ambient.Text
