/-
  Ambient.Proofs.Sweep.Blanks

  Blanks in texts of lines. Lines that do not end in blanks are not touched by trimming, and of the
  empty lines that stand where paragraphs were only one is left between each two paragraphs, and
  none at either end.
-/
import Ambient.Declaration.Tidy
import Ambient.Proofs.Sweep.Heading
import Ambient.Proofs.Text.Edges
import Ambient.Proofs.Text.Lines
import Ambient.Sweep.Finish

namespace Ambient

namespace Text

/-- A line that is not empty, holds no break and does not end in a blank. -/
structure IsSolid (line : String) : Prop where
  oneLine : '\n' ∉ line.toList
  ends : EndsInBlack line.toList

end Text

open Text

/-! ## Trimming of lines -/

namespace Sweep

/-- Lines that are empty or solid are not touched by trimming. -/
theorem trimLines_written {lines : List String} (h : ∀ line ∈ lines, line = "" ∨ IsSolid line) :
    trimLines (written lines) = written lines := by
  have hbreak : ∀ line ∈ lines.map String.toList, '\n' ∉ line := by
    intro line hline
    obtain ⟨s, hs, rfl⟩ := List.mem_map.mp hline
    rcases h s hs with rfl | hsolid
    · simp
    · exact hsolid.oneLine
  have hkept : ∀ line ∈ lines.map String.toList ++ [[]],
      dropEndWhile isSpaceOrTab line = line := by
    intro line hline
    rcases List.mem_append.mp hline with hmem | hlast
    · obtain ⟨s, hs, rfl⟩ := List.mem_map.mp hmem
      rcases h s hs with rfl | hsolid
      · rfl
      · exact hsolid.ends.dropEndWhile fun c hc => Sweep.isBlank_of_isSpaceOrTab hc
    · rw [List.mem_singleton.mp hlast]
      rfl
  -- the last piece is what follows the last break, and is empty
  have hcut : splitOn '\n' (written lines) = lines.map String.toList ++ [[]] :=
    splitOn_unlines hbreak
  have hsame : (splitOn '\n' (written lines)).map (dropEndWhile isSpaceOrTab) =
      splitOn '\n' (written lines) := by
    rw [hcut]
    exact (List.map_congr_left hkept).trans (List.map_id _)
  rw [trimLines, hsame, joinWith_splitOn]

end Sweep

namespace Tidy

/-- A line that does not end in a blank is kept as it is. -/
theorem tidyLines_cons {line : List Char} (h : EndsInBlack line) (afterBlank : Bool)
    (rest : List (List Char)) :
    tidyLines afterBlank (line :: rest) = line :: tidyLines false rest := by
  have hkept : trimEnd line = line := h.dropEndWhile fun c hc => hc
  obtain ⟨c, tail, rfl⟩ := List.exists_cons_of_ne_nil h.ne_nil
  rw [tidyLines, hkept]

theorem tidyLines_solid {lines : List String} (h : ∀ line ∈ lines, IsSolid line)
    (hne : lines ≠ []) (afterBlank : Bool) (rest : List (List Char)) :
    tidyLines afterBlank (lines.map String.toList ++ rest) =
      lines.map String.toList ++ tidyLines false rest := by
  induction lines generalizing afterBlank with
  | nil => exact absurd rfl hne
  | cons line more ih =>
    rw [List.map_cons, List.cons_append, tidyLines_cons (h line (by simp)).ends]
    -- the state after the last line is that after a line that is not blank
    by_cases hmore : more = []
    · subst hmore
      rfl
    · rw [ih (fun l hl => h l (by simp [hl])) hmore, List.cons_append]

/-- Paragraphs of solid lines are tidy. -/
theorem tidy_paragraphs {segments : List (List String)}
    (h : ∀ segment ∈ segments, segment ≠ [] ∧ ∀ line ∈ segment, IsSolid line) :
    tidy (written (paragraphs segments)) = written (paragraphs segments) := by
  have hbreak : ∀ line ∈ (paragraphs segments).map String.toList, '\n' ∉ line := by
    intro line hline
    obtain ⟨s, hs, rfl⟩ := List.mem_map.mp hline
    rcases mem_paragraphs hs with rfl | ⟨segment, hsegment, hmem⟩
    · simp
    · exact ((h segment hsegment).2 s hmem).oneLine
  have hcut : splitOn '\n' (written (paragraphs segments)) =
      (paragraphs segments).map String.toList ++ [[]] := splitOn_unlines hbreak
  -- an empty line comes only after the last line of a paragraph, which is solid
  have htidy : ∀ {segs : List (List String)},
      (∀ segment ∈ segs, segment ≠ [] ∧ ∀ line ∈ segment, IsSolid line) → segs ≠ [] →
      ∀ afterBlank, tidyLines afterBlank ((paragraphs segs).map String.toList ++ [[]]) =
        (paragraphs segs).map String.toList ++ [[]] := by
    intro segs hsegs hne
    induction segs with
    | nil => exact absurd rfl hne
    | cons segment rest ih =>
      intro afterBlank
      obtain ⟨hsegment, hsolid⟩ := hsegs segment (by simp)
      by_cases hrest : rest = []
      · subst hrest
        rw [paragraphs_singleton, tidyLines_solid hsolid hsegment]
        rfl
      · have hmore := ih (fun s hs => hsegs s (by simp [hs])) hrest true
        rw [paragraphs_cons segment hrest, List.map_append, List.append_assoc,
          tidyLines_solid hsolid hsegment, List.map_cons, List.cons_append]
        show _ ++ [] :: tidyLines true _ = _
        rw [hmore]
        rfl
  rw [tidy, hcut]
  by_cases hne : segments = []
  · subst hne
    rfl
  · rw [htidy h hne, ← hcut, joinWith_splitOn]

end Tidy

/-! ## Line breaks in a row -/

namespace Sweep

theorem limitBreaks_break (count : Nat) (rest : List Char) :
    limitBreaks count ('\n' :: rest) =
      if count < 2 then '\n' :: limitBreaks (count + 1) rest else limitBreaks count rest := by
  simp [limitBreaks]

theorem limitBreaks_other {c : Char} (h : c ≠ '\n') (count : Nat) (rest : List Char) :
    limitBreaks count (c :: rest) = c :: limitBreaks 0 rest := by
  simp [limitBreaks, h]

theorem limitBreaks_rest {t : List Char} (h : '\n' ∉ t) (rest : List Char) :
    limitBreaks 0 (t ++ '\n' :: rest) = t ++ '\n' :: limitBreaks 1 rest := by
  induction t with
  | nil => simp [limitBreaks]
  | cons c more ih =>
    rw [List.cons_append, limitBreaks, head_beq_of_notMem h, ih fun hmem => h (by simp [hmem])]
    rfl

/-- One break follows the last of some solid lines. -/
theorem limitBreaks_written {lines : List String} (h : ∀ line ∈ lines, IsSolid line)
    (hne : lines ≠ []) (count : Nat) (rest : List Char) :
    limitBreaks count (written lines ++ rest) = written lines ++ limitBreaks 1 rest := by
  induction lines generalizing count with
  | nil => exact absurd rfl hne
  | cons line more ih =>
    have hline := h line (by simp)
    obtain ⟨c, tail, hcons⟩ := List.exists_cons_of_ne_nil hline.ends.ne_nil
    have hbreak := hline.oneLine
    rw [hcons] at hbreak
    -- the first character of the line ends any row of breaks before it
    have hfirst : limitBreaks count (line.toList ++ '\n' :: (written more ++ rest)) =
        line.toList ++ '\n' :: limitBreaks 1 (written more ++ rest) := by
      rw [hcons, List.cons_append, limitBreaks, head_beq_of_notMem hbreak,
        limitBreaks_rest fun hmem => hbreak (by simp [hmem])]
      rfl
    rw [written_cons, List.append_assoc, List.cons_append, hfirst]
    by_cases hmore : more = []
    · subst hmore
      simp
    · rw [ih (fun l hl => h l (by simp [hl])) hmore, List.append_assoc, List.cons_append]

/-- Of the empty lines around and between paragraphs one is left between each two that are not
empty, and breaks at both ends. -/
theorem limitBreaks_paragraphs {segments : List (List String)}
    (h : ∀ segment ∈ segments, ∀ line ∈ segment, IsSolid line) {count : Nat} (hcount : count ≤ 2) :
    ∃ i j, limitBreaks count (written (paragraphs segments)) =
        List.replicate i '\n' ++ (written (paragraphs (segments.filter (!·.isEmpty))) ++
          List.replicate j '\n') ∧
      (count = 2 → i = 0) := by
  induction segments generalizing count with
  | nil => exact ⟨0, 0, rfl, fun _ => rfl⟩
  | cons segment rest ih =>
    have hsolid := h segment (by simp)
    have hlater := fun {k : Nat} (hk : k ≤ 2) => ih (fun s hs => h s (by simp [hs])) hk
    by_cases hempty : segment = []
    · subst hempty
      have hfilter : ([] :: rest).filter (fun s => !s.isEmpty) = rest.filter (!·.isEmpty) := rfl
      rw [hfilter]
      by_cases hrest : rest = []
      · subst hrest
        exact ⟨0, 0, rfl, fun _ => rfl⟩
      · have htext : written (paragraphs ([] :: rest)) = '\n' :: written (paragraphs rest) := by
          rw [paragraphs_cons _ hrest]
          simp
        rw [htext, limitBreaks_break]
        -- the empty line after the missing paragraph is one more break in a row
        by_cases htwo : count < 2
        · obtain ⟨i, j, heq, -⟩ := hlater (k := count + 1) (by omega)
          refine ⟨i + 1, j, ?_, fun hc => by omega⟩
          rw [if_pos htwo, heq]
          rfl
        · obtain ⟨i, j, heq, hi⟩ := hlater hcount
          refine ⟨i, j, ?_, hi⟩
          rw [if_neg htwo, heq]
    · have hfilter : (segment :: rest).filter (fun s => !s.isEmpty) =
          segment :: rest.filter (!·.isEmpty) := by
        simp [hempty]
      rw [hfilter]
      by_cases hrest : rest = []
      · subst hrest
        refine ⟨0, 0, ?_, fun _ => rfl⟩
        have hall := limitBreaks_written hsolid hempty count []
        simpa [limitBreaks] using hall
      · -- the break that ends the paragraph and the empty line after it make two
        obtain ⟨i, j, heq, hi⟩ := hlater (k := 2) (Nat.le_refl 2)
        rw [hi rfl, List.replicate_zero, List.nil_append] at heq
        have htext : limitBreaks count (written (paragraphs (segment :: rest))) =
            written segment ++ '\n' :: limitBreaks 2 (written (paragraphs rest)) := by
          rw [paragraphs_cons segment hrest, written_append, limitBreaks_written hsolid hempty]
          rfl
        rw [htext, heq]
        -- what is left of the empty lines is between paragraphs only if one follows
        by_cases hnone : rest.filter (!·.isEmpty) = []
        · refine ⟨0, j + 1, ?_, fun _ => rfl⟩
          rw [hnone]
          simp [List.replicate_succ]
        · refine ⟨0, j, ?_, fun _ => rfl⟩
          rw [paragraphs_cons segment hnone]
          simp

/-- A text without carriage returns has no pairs of breaks. -/
theorem joinBreaks_of_notMem {t : List Char} (h : '\r' ∉ t) : joinBreaks t = t := by
  induction t using joinBreaks.induct with
  | case1 => rfl
  | case2 rest ih => exact absurd (by simp) h
  | case3 c rest hpair ih =>
    rw [joinBreaks, ih fun hmem => h (by simp [hmem])]
    exact hpair

/-! ## Both ends -/

theorem isBlank_of_mem_breaks {k : Nat} {c : Char} (h : c ∈ List.replicate k '\n') :
    isBlank c = true := by
  rw [List.eq_of_mem_replicate h]
  decide

/-- Of breaks alone nothing is left. -/
theorem trim_breaks_nil (i j : Nat) :
    trim (List.replicate i '\n' ++ ([] ++ List.replicate j '\n')) = [] := by
  have hblank : ∀ c ∈ List.replicate i '\n' ++ List.replicate j '\n', isBlank c = true := by
    intro c hc
    rcases List.mem_append.mp hc with h | h <;> exact isBlank_of_mem_breaks h
  have hnone : (List.replicate i '\n' ++ List.replicate j '\n' ++ []).dropWhile isBlank = [] := by
    rw [List.dropWhile_append_of_pos hblank]
    rfl
  rw [List.append_nil] at hnone
  rw [trim, List.nil_append, hnone]
  rfl

/-- Breaks at both ends of a text go, and with them the break that ends its last line. -/
theorem trim_breaks {t : List Char} {first : Char} {rest : List Char} (ht : t = first :: rest)
    (hfirst : isBlank first = false) (hends : EndsInBlack t) (i j : Nat) :
    trim (List.replicate i '\n' ++ (t ++ ['\n'] ++ List.replicate j '\n')) = t := by
  -- the text begins with no blank
  have hstart : (t ++ ['\n'] ++ List.replicate j '\n').dropWhile isBlank =
      t ++ ('\n' :: List.replicate j '\n') := by
    rw [ht, List.cons_append, List.cons_append, List.dropWhile_cons, hfirst]
    simp
  have htail : ∀ c ∈ '\n' :: List.replicate j '\n', isBlank c = true := by
    intro c hc
    rcases List.mem_cons.mp hc with rfl | hmem
    · decide
    · exact isBlank_of_mem_breaks hmem
  rw [trim, List.dropWhile_append_of_pos fun c hc => isBlank_of_mem_breaks hc, hstart, trimEnd,
    dropEndWhile_append htail]
  exact hends.dropEndWhile fun c hc => hc

end Sweep

end Ambient
