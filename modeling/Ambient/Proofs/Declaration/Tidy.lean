/-
  Ambient.Proofs.Declaration.Tidy

  What tidying leaves of a text. The lines that are not blank stay, in their order and without blanks
  at their ends. Of the blank lines before the first of them, between each two and after the last, an
  empty line stays where there was any (`tidied_lines`). Tidying again changes nothing, for a text
  is given back exactly if its lines are tidy.
-/
import Ambient.Declaration.Tidy
import Ambient.Proofs.Text.Edges
import Ambient.Proofs.Text.Lines
import Mathlib.Data.List.Chain

namespace Ambient.Tidy

open Text

/-! ## Blank lines -/

/-- Whether a line has a character that is no blank. -/
def isFilled (line : List Char) : Bool :=
  !allBlank line

/-- The blank lines before the first filled line, between each two that follow each other, and after
the last. -/
def blankRuns (lines : List (List Char)) : List (List (List Char)) :=
  lines.splitOnP isFilled

/-- One empty line for some blank lines, and none for none. -/
def shortened (run : List (List Char)) : List (List Char) :=
  if run.isEmpty then [] else [[]]

theorem blankRuns_of_filled {line : List Char} (h : isFilled line = true) (rest : List (List Char)) :
    blankRuns (line :: rest) = [] :: blankRuns rest := by
  rw [blankRuns, List.splitOnP_cons_eq_if_modifyHead, if_pos h]
  rfl

/-- A blank line comes to those that follow it. -/
theorem blankRuns_of_blank {line : List Char} (h : isFilled line = false)
    (rest : List (List Char)) :
    ∃ run runs, blankRuns rest = run :: runs ∧ blankRuns (line :: rest) = (line :: run) :: runs := by
  obtain ⟨run, runs, hrest⟩ := List.exists_cons_of_ne_nil (List.splitOnP_ne_nil isFilled rest)
  refine ⟨run, runs, hrest, ?_⟩
  rw [blankRuns, List.splitOnP_cons_eq_if_modifyHead, h, hrest]
  rfl

/-! ## Lines -/

theorem trimEnd_eq_nil_iff (line : List Char) : trimEnd line = [] ↔ isFilled line = false := by
  rw [trimEnd, dropEndWhile_eq_nil_iff, isFilled, allBlank, Bool.not_eq_false']

theorem trimEnd_trimEnd (line : List Char) : trimEnd (trimEnd line) = trimEnd line :=
  dropEndWhile_of_getLast? (getLast?_dropEndWhile isBlank line)

/-- What is kept of a filled line is filled. -/
theorem isFilled_trimEnd (line : List Char) : isFilled (trimEnd line) = isFilled line := by
  rw [Bool.eq_iff_iff, ← not_iff_not, Bool.not_eq_true, Bool.not_eq_true, ← trimEnd_eq_nil_iff,
    ← trimEnd_eq_nil_iff, trimEnd_trimEnd]

theorem tidyLines_of_filled {line : List Char} (h : isFilled line = true) (afterBlank : Bool)
    (rest : List (List Char)) :
    tidyLines afterBlank (line :: rest) = trimEnd line :: tidyLines false rest := by
  rw [tidyLines]
  split
  · rename_i hnil
    rw [(trimEnd_eq_nil_iff line).mp hnil] at h
    cases h
  · rfl

theorem tidyLines_of_blank {line : List Char} (h : isFilled line = false) (afterBlank : Bool)
    (rest : List (List Char)) :
    tidyLines afterBlank (line :: rest) =
      if afterBlank then tidyLines true rest else [] :: tidyLines true rest := by
  rw [tidyLines, (trimEnd_eq_nil_iff line).mpr h]

/-- Each line that stays is what is kept of some line. -/
theorem mem_tidyLines {afterBlank : Bool} {lines : List (List Char)} {line : List Char}
    (h : line ∈ tidyLines afterBlank lines) : ∃ whole ∈ lines, trimEnd whole = line := by
  induction lines generalizing afterBlank with
  | nil => exact absurd h List.not_mem_nil
  | cons first rest ih =>
    have hlater : ∀ {b}, line ∈ tidyLines b rest → ∃ whole ∈ first :: rest, trimEnd whole = line := by
      intro b hmem
      obtain ⟨whole, hwhole, hline⟩ := ih hmem
      exact ⟨whole, List.mem_cons_of_mem first hwhole, hline⟩
    cases hfirst : isFilled first with
    | true =>
      rw [tidyLines_of_filled hfirst] at h
      rcases List.mem_cons.mp h with rfl | hmem
      · exact ⟨first, List.mem_cons_self, rfl⟩
      · exact hlater hmem
    | false =>
      rw [tidyLines_of_blank hfirst] at h
      cases afterBlank with
      | true => exact hlater h
      | false =>
        rcases List.mem_cons.mp h with rfl | hmem
        · -- an empty line is what is kept of a blank one
          exact ⟨first, List.mem_cons_self, (trimEnd_eq_nil_iff first).mpr hfirst⟩
        · exact hlater hmem

/-! ## What stays -/

/-- Filled lines stay, without blanks at their ends. -/
theorem filter_tidyLines (afterBlank : Bool) (lines : List (List Char)) :
    (tidyLines afterBlank lines).filter isFilled = (lines.filter isFilled).map trimEnd := by
  induction lines generalizing afterBlank with
  | nil => rfl
  | cons line rest ih =>
    cases hline : isFilled line with
    | true =>
      have hkept := (isFilled_trimEnd line).trans hline
      rw [tidyLines_of_filled hline, List.filter_cons_of_pos hkept, ih,
        List.filter_cons_of_pos hline, List.map_cons]
    | false =>
      have hskip : (line :: rest).filter isFilled = rest.filter isFilled :=
        List.filter_cons_of_neg (by simp [hline])
      rw [tidyLines_of_blank hline, hskip]
      cases afterBlank with
      | true => exact ih true
      | false => exact (List.filter_cons_of_neg (by decide)).trans (ih true)

/-- Each run of blank lines is shortened; of a run that goes on with the line before, nothing is
left. -/
theorem blankRuns_tidyLines (afterBlank : Bool) (lines : List (List Char)) :
    ∃ run runs, blankRuns lines = run :: runs ∧
      blankRuns (tidyLines afterBlank lines) =
        (if afterBlank then [] else shortened run) :: runs.map shortened := by
  induction lines generalizing afterBlank with
  | nil =>
    refine ⟨[], [], rfl, ?_⟩
    cases afterBlank <;> rfl
  | cons line rest ih =>
    cases hline : isFilled line with
    | true =>
      -- the line begins a new run, and the run before it has no lines
      obtain ⟨run, runs, hruns, htidy⟩ := ih false
      refine ⟨[], run :: runs, by rw [blankRuns_of_filled hline, hruns], ?_⟩
      rw [tidyLines_of_filled hline, blankRuns_of_filled ((isFilled_trimEnd line).trans hline), htidy]
      cases afterBlank <;> rfl
    | false =>
      -- the line goes on with a run; the first of a run is the one that stays
      obtain ⟨run, runs, hruns, htidy⟩ := ih true
      obtain ⟨_, _, hsame, hmore⟩ := blankRuns_of_blank hline rest
      obtain ⟨rfl, rfl⟩ := List.cons.inj (hruns.symm.trans hsame)
      refine ⟨line :: run, runs, hmore, ?_⟩
      rw [tidyLines_of_blank hline]
      cases afterBlank with
      | true => exact htidy
      | false =>
        obtain ⟨first, others, hfirst, hnext⟩ :=
          @blankRuns_of_blank [] rfl (tidyLines true rest)
        obtain ⟨rfl, rfl⟩ := List.cons.inj (htidy.symm.trans hfirst)
        exact hnext

/-! ## Tidy lines -/

/-- Lines none of which ends in a blank, and no two blank ones of which follow each other. -/
structure AreTidy (lines : List (List Char)) : Prop where
  trimmed : ∀ line ∈ lines, ∀ c ∈ line.getLast?, isBlank c = false
  apart : lines.IsChain fun line next => isFilled line = true ∨ isFilled next = true

/-- Behind a blank line the first line that stays is filled. -/
theorem head_tidyLines (lines : List (List Char)) :
    ∀ line ∈ (tidyLines true lines).head?, isFilled line = true := by
  induction lines with
  | nil => simp [tidyLines]
  | cons line rest ih =>
    cases hline : isFilled line with
    | true =>
      rw [tidyLines_of_filled hline]
      simpa using (isFilled_trimEnd line).trans hline
    | false =>
      rw [tidyLines_of_blank hline]
      exact ih

theorem areTidy_tidyLines (afterBlank : Bool) (lines : List (List Char)) :
    AreTidy (tidyLines afterBlank lines) := by
  induction lines generalizing afterBlank with
  | nil => exact ⟨by simp [tidyLines], .nil⟩
  | cons line rest ih =>
    cases hline : isFilled line with
    | true =>
      rw [tidyLines_of_filled hline]
      have hkept := (isFilled_trimEnd line).trans hline
      exact ⟨List.forall_mem_cons.mpr ⟨getLast?_dropEndWhile isBlank line, (ih false).trimmed⟩,
        List.isChain_cons.mpr ⟨fun _ _ => .inl hkept, (ih false).apart⟩⟩
    | false =>
      rw [tidyLines_of_blank hline]
      cases afterBlank with
      | true => exact ih true
      | false =>
        exact ⟨List.forall_mem_cons.mpr ⟨by simp, (ih true).trimmed⟩,
          List.isChain_cons.mpr ⟨fun next hnext => .inr (head_tidyLines rest next hnext),
            (ih true).apart⟩⟩

/-- Tidy lines are given back, if no blank line is the first behind a blank line. -/
theorem tidyLines_of_areTidy {lines : List (List Char)} (h : AreTidy lines) (afterBlank : Bool)
    (hfirst : afterBlank = true → ∀ line ∈ lines.head?, isFilled line = true) :
    tidyLines afterBlank lines = lines := by
  induction lines generalizing afterBlank with
  | nil => rfl
  | cons line rest ih =>
    obtain ⟨hlast, hrest⟩ := List.forall_mem_cons.mp h.trimmed
    obtain ⟨hnext, hlater⟩ := List.isChain_cons.mp h.apart
    have hkept : trimEnd line = line := dropEndWhile_of_getLast? hlast
    cases hline : isFilled line with
    | true =>
      rw [tidyLines_of_filled hline, hkept, ih ⟨hrest, hlater⟩ false (by simp)]
    | false =>
      rw [(trimEnd_eq_nil_iff line).mpr hline] at hkept
      subst hkept
      -- a blank line behind a blank one would not be tidy
      cases afterBlank with
      | true => exact absurd (hfirst rfl [] rfl) (by decide)
      | false =>
        rw [tidyLines_of_blank hline, ih ⟨hrest, hlater⟩ true fun _ next hmem => ?_]
        · rfl
        · exact (hnext next hmem).resolve_left (by decide)

/-! ## Texts -/

/-- The lines of a tidied text are those that tidying leaves of the lines of the text. -/
theorem splitOn_tidy (text : List Char) :
    splitOn '\n' (tidy text) = tidyLines false (splitOn '\n' text) := by
  refine splitOn_joinWith ?_ ?_
  · obtain ⟨first, rest, hlines⟩ := List.exists_cons_of_ne_nil (splitOn_ne_nil '\n' text)
    rw [hlines]
    cases hfirst : isFilled first with
    | true => simp [tidyLines_of_filled hfirst]
    | false => simp [tidyLines_of_blank hfirst]
  · intro line hline hbreak
    obtain ⟨whole, hwhole, rfl⟩ := mem_tidyLines hline
    exact notMem_of_mem_splitOn hwhole ((isPrefix_dropEndWhile isBlank whole).subset hbreak)

/-- Tidying gives a text back exactly if its lines are tidy. -/
theorem tidy_eq_self_iff (text : List Char) : tidy text = text ↔ AreTidy (splitOn '\n' text) := by
  constructor
  · intro h
    rw [← h, splitOn_tidy]
    exact areTidy_tidyLines false _
  · intro h
    rw [tidy, tidyLines_of_areTidy h false (by simp), joinWith_splitOn]

/-- A tidied text has the filled lines of the text without blanks at their ends, in their order, and
an empty line exactly where the text has blank ones: before the first filled line, between two of
them, and after the last. Its lines are tidy, so that it is its own tidied text. -/
theorem tidied_lines (code : String) :
    let before := splitOn '\n' code.toList
    let after := splitOn '\n' code.tidied.toList
    AreTidy after ∧ after.filter isFilled = (before.filter isFilled).map trimEnd ∧
      blankRuns after = (blankRuns before).map shortened ∧ code.tidied.tidied = code.tidied := by
  intro before after
  have hafter : after = tidyLines false before := by
    rw [← splitOn_tidy]
    exact congrArg (splitOn '\n') String.toList_ofList
  have htidy : AreTidy after := hafter ▸ areTidy_tidyLines false before
  refine ⟨htidy, ?_, ?_, ?_⟩
  · rw [hafter, filter_tidyLines]
  · obtain ⟨run, runs, hbefore, hruns⟩ := blankRuns_tidyLines false before
    rw [hafter, hruns, hbefore]
    rfl
  · conv_lhs => rw [String.tidied, (tidy_eq_self_iff _).mpr htidy, String.ofList_toList]

end Ambient.Tidy
