/-
  Ambient.Proofs.Text.Lines

  Texts as lists of lines. Lines without line breaks can be joined and cut again without loss, and a
  margin goes before each of them that is not blank.
-/
import Ambient.Text.Margin

namespace Ambient.Text

/-! ## Cutting what was joined -/

theorem splitOn_of_notMem {sep : Char} {piece : List Char} (h : sep ∉ piece) :
    splitOn sep piece = [piece] := by
  induction piece with
  | nil => rfl
  | cons c rest ih =>
    have hc : c ≠ sep := fun hc => h (by simp [hc])
    have hrest : sep ∉ rest := fun hr => h (by simp [hr])
    rw [splitOn, ih hrest]
    simp [hc]

/-- Cutting takes off one piece at a time. -/
theorem splitOn_append {sep : Char} {piece : List Char} (h : sep ∉ piece) (rest : List Char) :
    splitOn sep (piece ++ sep :: rest) = piece :: splitOn sep rest := by
  induction piece with
  | nil => simp [splitOn]
  | cons c tail ih =>
    have hc : c ≠ sep := fun hc => h (by simp [hc])
    have htail : sep ∉ tail := fun ht => h (by simp [ht])
    rw [List.cons_append, splitOn, ih htail]
    simp [hc]

/-- No piece holds the separator. -/
theorem notMem_of_mem_splitOn {sep : Char} {text piece : List Char} (h : piece ∈ splitOn sep text) :
    sep ∉ piece := by
  induction text generalizing piece with
  | nil =>
    rw [List.mem_singleton.mp h]
    exact List.not_mem_nil
  | cons c rest ih =>
    obtain ⟨first, more, hcut⟩ := List.exists_cons_of_ne_nil (splitOn_ne_nil sep rest)
    rw [hcut] at ih
    rw [splitOn, hcut] at h
    split at h
    · rcases List.mem_cons.mp h with rfl | hmore
      · exact List.not_mem_nil
      · exact ih hmore
    · rename_i hc
      rcases List.mem_cons.mp h with rfl | hmore
      · rw [List.mem_cons, not_or]
        exact ⟨fun he => hc (by simp [he]), ih (by simp)⟩
      · exact ih (by simp [hmore])

/-- What follows the last separator is the last piece, whatever stands before. -/
theorem afterLast_append {sep : Char} {piece : List Char} (h : sep ∉ piece) (front : List Char) :
    afterLast sep (front ++ sep :: piece) = piece := by
  have hlast : (splitOn sep (front ++ sep :: piece)).getLast? = some piece := by
    induction front with
    | nil => simp [splitOn, splitOn_of_notMem h]
    | cons c rest ih =>
      obtain ⟨first, more, hcut⟩ :=
        List.exists_cons_of_ne_nil (splitOn_ne_nil sep (rest ++ sep :: piece))
      rw [hcut] at ih
      rw [List.cons_append, splitOn, hcut]
      split
      · rw [List.getLast?_cons_cons, ih]
      · -- the piece that grows in front is the last one only if there is no separator
        cases more with
        | nil =>
          have hwhole := joinWith_splitOn sep (rest ++ sep :: piece)
          rw [hcut] at hwhole
          exact absurd (hwhole ▸ by simp : sep ∈ joinWith [sep] [first])
            (notMem_of_mem_splitOn (hcut ▸ List.mem_singleton_self first))
        | cons => simpa using ih
  rw [afterLast, hlast]
  rfl

theorem joinWith_cons {sep piece : List Char} {pieces : List (List Char)} (h : pieces ≠ []) :
    joinWith sep (piece :: pieces) = piece ++ sep ++ joinWith sep pieces := by
  cases pieces with
  | nil => exact absurd rfl h
  | cons => rfl

/-- A character of joined pieces is one of a piece or of the separator. -/
theorem mem_joinWith {sep : List Char} {pieces : List (List Char)} {c : Char}
    (h : c ∈ joinWith sep pieces) : c ∈ sep ∨ ∃ piece ∈ pieces, c ∈ piece := by
  induction pieces with
  | nil => simp [joinWith] at h
  | cons piece rest ih =>
    by_cases hrest : rest = []
    · subst hrest
      exact .inr ⟨piece, by simp, h⟩
    · rw [joinWith_cons hrest, List.mem_append, List.mem_append] at h
      rcases h with (hpiece | hsep) | hmore
      · exact .inr ⟨piece, by simp, hpiece⟩
      · exact .inl hsep
      · rcases ih hmore with hsep | ⟨q, hq, hc⟩
        · exact .inl hsep
        · exact .inr ⟨q, by simp [hq], hc⟩

/-- Cutting gives back the pieces that were joined. -/
theorem splitOn_joinWith {sep : Char} {pieces : List (List Char)} (hne : pieces ≠ [])
    (h : ∀ piece ∈ pieces, sep ∉ piece) : splitOn sep (joinWith [sep] pieces) = pieces := by
  induction pieces with
  | nil => exact absurd rfl hne
  | cons piece rest ih =>
    have hpiece : sep ∉ piece := h piece (by simp)
    by_cases hrest : rest = []
    · rw [hrest]
      exact splitOn_of_notMem hpiece
    · rw [joinWith_cons hrest, List.append_assoc, List.singleton_append,
        splitOn_append hpiece, ih hrest fun p hp => h p (by simp [hp])]

/-- Texts with a separator between them are cut one after the other. -/
theorem splitOn_append_sep (sep : Char) (front back : List Char) :
    splitOn sep (front ++ sep :: back) = splitOn sep front ++ splitOn sep back := by
  induction front with
  | nil => simp [splitOn]
  | cons c rest ih =>
    obtain ⟨piece, pieces, hrest⟩ := List.exists_cons_of_ne_nil (splitOn_ne_nil sep rest)
    rw [List.cons_append, splitOn, splitOn, ih, hrest]
    split <;> rfl

theorem joinWith_append {sep : List Char} {xs ys : List (List Char)} (hx : xs ≠ []) (hy : ys ≠ []) :
    joinWith sep (xs ++ ys) = joinWith sep xs ++ sep ++ joinWith sep ys := by
  induction xs with
  | nil => exact absurd rfl hx
  | cons piece rest ih =>
    rw [List.cons_append, joinWith_cons (by simp [hy])]
    by_cases hrest : rest = []
    · subst hrest
      rfl
    · rw [ih hrest, joinWith_cons hrest]
      simp only [List.append_assoc]

/-- The pieces of a text begin with those of another one exactly if the texts are the same, or the
other one stands at the start with a separator behind it. -/
theorem splitOn_isPrefix_iff (sep : Char) (front text : List Char) :
    splitOn sep front <+: splitOn sep text ↔ front = text ∨ front ++ [sep] <+: text := by
  constructor
  · rintro ⟨pieces, hpieces⟩
    have htext := congrArg (joinWith [sep]) hpieces
    rw [joinWith_splitOn] at htext
    by_cases hnone : pieces = []
    · rw [hnone, List.append_nil, joinWith_splitOn] at htext
      exact .inl htext
    · rw [joinWith_append (splitOn_ne_nil sep front) hnone, joinWith_splitOn] at htext
      exact .inr ⟨_, htext⟩
  · rintro (rfl | ⟨back, rfl⟩)
    · exact List.prefix_refl _
    · rw [List.append_assoc, List.singleton_append, splitOn_append_sep]
      exact List.prefix_append _ _

/-- Two lists that are told apart from what follows by a first occurrence agree if the wholes do. -/
theorem append_cons_cancel {α : Type} {sep : α} {xs ys xs' ys' : List α} (hx : sep ∉ xs)
    (hy : sep ∉ ys) (h : xs ++ sep :: xs' = ys ++ sep :: ys') : xs = ys ∧ xs' = ys' := by
  induction xs generalizing ys with
  | nil =>
    cases ys with
    | nil => exact ⟨rfl, (List.cons.inj h).2⟩
    | cons y rest => exact absurd (List.cons.inj h).1 fun he => hy (by simp [he])
  | cons x rest ih =>
    cases ys with
    | nil => exact absurd (List.cons.inj h).1 fun he => hx (by simp [he])
    | cons y more =>
      obtain ⟨rfl, htail⟩ := List.cons.inj h
      obtain ⟨rfl, hrest⟩ := ih (fun hr => hx (by simp [hr])) (fun hm => hy (by simp [hm])) htail
      exact ⟨rfl, hrest⟩

/-- Joined pieces are told from the text if they do not hold the first character of what stands
between them. -/
theorem joinWith_inj {c : Char} {sep : List Char} {xs ys : List (List Char)} (hx : xs ≠ [])
    (hy : ys ≠ []) (hxs : ∀ piece ∈ xs, c ∉ piece) (hys : ∀ piece ∈ ys, c ∉ piece)
    (h : joinWith (c :: sep) xs = joinWith (c :: sep) ys) : xs = ys := by
  induction xs generalizing ys with
  | nil => exact absurd rfl hx
  | cons x xs ih =>
    cases ys with
    | nil => exact absurd rfl hy
    | cons y ys =>
      have hcx : c ∉ x := hxs x (by simp)
      have hcy : c ∉ y := hys y (by simp)
      by_cases hnx : xs = [] <;> by_cases hny : ys = []
      · subst hnx hny
        exact congrArg (· :: []) h
      · -- only one of the texts holds the separator
        rw [hnx, joinWith_cons hny] at h
        exact absurd (h ▸ by simp : c ∈ joinWith (c :: sep) [x]) hcx
      · rw [hny, joinWith_cons hnx] at h
        exact absurd (h ▸ by simp : c ∈ joinWith (c :: sep) [y]) hcy
      · -- both first pieces end where the separator first occurs
        rw [joinWith_cons hnx, joinWith_cons hny] at h
        simp only [List.append_assoc, List.cons_append] at h
        obtain ⟨rfl, hrest⟩ := append_cons_cancel hcx hcy h
        rw [ih hnx hny (fun p hp => hxs p (by simp [hp])) (fun p hp => hys p (by simp [hp]))
          (List.append_cancel_left hrest)]

theorem head_beq_of_notMem {c d : Char} {rest : List Char} (h : d ∉ c :: rest) :
    (c == d) = false := by
  rw [beq_eq_false_iff_ne]
  rintro rfl
  exact h (by simp)

/-! ## Lines that all end in a break -/

/-- The text of some lines with a line break after each. -/
def unlines (lines : List (List Char)) : List Char :=
  lines.flatMap (· ++ ['\n'])

@[simp] theorem unlines_nil : unlines [] = [] := rfl

@[simp] theorem unlines_cons (line : List Char) (lines : List (List Char)) :
    unlines (line :: lines) = line ++ '\n' :: unlines lines := by
  simp [unlines]

@[simp] theorem unlines_append (xs ys : List (List Char)) :
    unlines (xs ++ ys) = unlines xs ++ unlines ys := by
  simp [unlines]

/-- The text of some strings with a line break after each. -/
def written (lines : List String) : List Char :=
  unlines (lines.map String.toList)

@[simp] theorem written_nil : written [] = [] := rfl

@[simp] theorem written_cons (line : String) (lines : List String) :
    written (line :: lines) = line.toList ++ '\n' :: written lines := by
  simp [written]

@[simp] theorem written_append (xs ys : List String) :
    written (xs ++ ys) = written xs ++ written ys := by
  simp [written]

/-- Ended lines hold no characters but their own and the breaks. -/
theorem notMem_written {c : Char} (hc : c ≠ '\n') {lines : List String}
    (h : ∀ line ∈ lines, c ∉ line.toList) : c ∉ written lines := by
  induction lines with
  | nil => simp
  | cons line rest ih =>
    have hrest := ih fun l hl => h l (by simp [hl])
    simp [h line (by simp), hc, hrest]

/-- Nothing follows the last break of ended lines. -/
theorem splitOn_unlines {lines : List (List Char)} (h : ∀ line ∈ lines, '\n' ∉ line) :
    splitOn '\n' (unlines lines) = lines ++ [[]] := by
  induction lines with
  | nil => rfl
  | cons line rest ih =>
    rw [unlines_cons, splitOn_append (h line (by simp)), ih fun l hl => h l (by simp [hl])]
    rfl

/-- Ended lines are told from their text. -/
theorem unlines_inj {xs ys : List (List Char)} (hx : ∀ line ∈ xs, '\n' ∉ line)
    (hy : ∀ line ∈ ys, '\n' ∉ line) (h : unlines xs = unlines ys) : xs = ys := by
  have hcut := congrArg (splitOn '\n') h
  rw [splitOn_unlines hx, splitOn_unlines hy] at hcut
  exact List.append_cancel_right hcut

/-- All lines but the last end in a break when they are joined. -/
theorem joinWith_append_singleton (lines : List (List Char)) (last : List Char) :
    joinWith ['\n'] (lines ++ [last]) = unlines lines ++ last := by
  induction lines with
  | nil => rfl
  | cons line rest ih =>
    rw [List.cons_append, joinWith_cons (by simp), ih, unlines_cons]
    simp

/-! ## Paragraphs -/

/-- The lines of some paragraphs, with an empty line between each two. -/
def paragraphs (segments : List (List String)) : List String :=
  List.intercalate [""] segments

@[simp] theorem paragraphs_nil : paragraphs [] = [] := rfl

@[simp] theorem paragraphs_singleton (segment : List String) : paragraphs [segment] = segment := by
  simp [paragraphs]

theorem paragraphs_cons (segment : List String) {rest : List (List String)} (h : rest ≠ []) :
    paragraphs (segment :: rest) = segment ++ "" :: paragraphs rest := by
  rw [paragraphs, List.intercalate_cons_of_ne_nil h]
  simp [paragraphs]

/-- A line of paragraphs is one of them or stands between two of them. -/
theorem mem_paragraphs {line : String} {segments : List (List String)}
    (h : line ∈ paragraphs segments) : line = "" ∨ ∃ segment ∈ segments, line ∈ segment := by
  induction segments with
  | nil => simp at h
  | cons segment rest ih =>
    by_cases hrest : rest = []
    · subst hrest
      exact .inr ⟨segment, by simp, by simpa using h⟩
    · rw [paragraphs_cons segment hrest] at h
      rcases List.mem_append.mp h with hown | hmore
      · exact .inr ⟨segment, by simp, hown⟩
      · rcases List.mem_cons.mp hmore with hblank | hmore
        · exact .inl hblank
        · rcases ih hmore with hblank | ⟨other, hother, hline⟩
          · exact .inl hblank
          · exact .inr ⟨other, by simp [hother], hline⟩

end Ambient.Text

namespace String

open Ambient

theorem toList_joinWith (sep : String) (pieces : List String) :
    (joinWith sep pieces).toList = Text.joinWith sep.toList (pieces.map toList) := by
  induction pieces with
  | nil => rfl
  | cons piece rest ih =>
    cases rest with
    | nil => rfl
    | cons next more =>
      rw [List.map_cons, Text.joinWith_cons (by simp), ← ih]
      simp [joinWith]

/-- Pieces joined with a separator are the pieces with the separator between each two. -/
theorem joinWith_eq_intercalate (sep : String) (pieces : List String) :
    joinWith sep pieces = sep.intercalate pieces := by
  induction pieces with
  | nil => rfl
  | cons piece rest ih =>
    cases rest with
    | nil => rw [joinWith, String.intercalate_singleton]
    | cons next more =>
      rw [String.intercalate_cons_cons, ← ih]
      rfl

/-- A character that neither a piece nor the separator holds is not in the joined text. -/
theorem notMem_joinWith {sep : String} {pieces : List String} {c : Char} (hsep : c ∉ sep.toList)
    (h : ∀ piece ∈ pieces, c ∉ piece.toList) : c ∉ (joinWith sep pieces).toList := by
  rw [toList_joinWith]
  intro hc
  rcases Text.mem_joinWith hc with hs | ⟨piece, hpiece, hmem⟩
  · exact hsep hs
  · obtain ⟨s, hs, rfl⟩ := List.mem_map.mp hpiece
    exact h s hs hmem

/-- A string with a character that is no blank is not blank. -/
theorem isAllBlank_eq_false {s : String} {c : Char} (hc : c ∈ s.toList)
    (h : Text.isBlank c = false) : s.isAllBlank = false := by
  rw [isAllBlank, Text.allBlank, List.all_eq_false]
  exact ⟨c, hc, by simp [h]⟩

theorem joinWith_cons {sep piece : String} {pieces : List String} (h : pieces ≠ []) :
    joinWith sep (piece :: pieces) = piece ++ sep ++ joinWith sep pieces := by
  cases pieces with
  | nil => exact absurd rfl h
  | cons => rfl

/-- All lines but the last end in a break when they are joined. -/
theorem joinWith_append_singleton (lines : List String) (last : String) :
    joinWith "\n" (lines ++ [last]) = join (lines.map (· ++ "\n")) ++ last := by
  rw [← toList_inj, toList_joinWith, List.map_append, List.map_singleton]
  show Text.joinWith ['\n'] (lines.map toList ++ [last.toList]) = _
  rw [Text.joinWith_append_singleton]
  simp [Text.unlines, List.flatMap_map]

theorem joinWith_cons_append_singleton (first : String) (lines : List String) (last : String) :
    joinWith "\n" (first :: (lines ++ [last])) =
      first ++ "\n" ++ join (lines.map (· ++ "\n")) ++ last := by
  have h := joinWith_append_singleton (first :: lines) last
  rw [List.cons_append, List.map_cons, join_cons] at h
  exact h

/-- A break after joined lines ends the last of them too. -/
theorem joinWith_append_break {lines : List String} (h : lines ≠ []) :
    joinWith "\n" lines ++ "\n" = join (lines.map (· ++ "\n")) := by
  induction lines with
  | nil => exact absurd rfl h
  | cons line rest ih =>
    by_cases hrest : rest = []
    · subst hrest
      simp [joinWith]
    · rw [joinWith_cons hrest, append_assoc, ih hrest, List.map_cons, join_cons]

/-- A margin goes before every line, where no line is blank and none holds a line break. -/
theorem indentedBy_joinWith {lines : List String} (hne : lines ≠ [])
    (hbreak : ∀ line ∈ lines, '\n' ∉ line.toList)
    (hblank : ∀ line ∈ lines, line.isAllBlank = false) (margin : String) :
    (joinWith "\n" lines).indentedBy margin = joinWith "\n" (lines.map (margin ++ ·)) := by
  -- a line that is not blank takes the margin
  have hmargin : ∀ line ∈ lines,
      Text.indentLine margin.toList line.toList = (margin ++ line).toList := by
    intro line hl
    have hb : Text.allBlank line.toList = false := hblank line hl
    simp [Text.indentLine, hb]
  -- cutting finds the lines that were joined, for none of them holds a break
  have hcut : Text.splitOn '\n' (joinWith "\n" lines).toList = lines.map toList := by
    rw [toList_joinWith]
    exact Text.splitOn_joinWith (by simpa using hne) (by simpa using hbreak)
  rw [← toList_inj, toList_joinWith, indentedBy, toList_ofList, Text.indent, hcut,
    List.map_map, List.map_map]
  exact congrArg _ (List.map_congr_left hmargin)

end String
