/-
  Ambient.Proofs.Sweep.Settling

  A second pass over a text. The blanks of a text are as they should be after one pass, but a pass
  can bring a hidden heading, an empty namespace or a pair of breaks to light that was none before. A
  second pass changes nothing exactly where none of these is left (`finishWith_twice`).
-/
import Ambient.Proofs.Sweep.Agreement
import Ambient.Proofs.Sweep.Shrinking
import Mathlib.Data.List.Chain

namespace Ambient.Sweep

open Text

variable {marker : List Char}

/-! ## Blanks at the ends of lines -/

/-- Whether a character can stay where another follows it: no space or tab before a break. -/
def Stays (c next : Char) : Prop :=
  isSpaceOrTab c = true → next ≠ '\n'

/-- A character of a line goes if it is a space or a tab and nothing of the line stays behind it. -/
theorem trimLines_cons (c : Char) (rest : List Char) :
    trimLines (c :: rest) =
      if isSpaceOrTab c && (trimLines rest).head?.all (· == '\n') then trimLines rest
      else c :: trimLines rest := by
  obtain ⟨piece, pieces, hcut⟩ := List.exists_cons_of_ne_nil (splitOn_ne_nil '\n' rest)
  by_cases hc : c = '\n'
  · subst hc
    have hlines : splitOn '\n' ('\n' :: rest) = [] :: splitOn '\n' rest := rfl
    rw [trimLines, hlines, List.map_cons, joinWith_cons (by simp [hcut])]
    rfl
  · have hlines : splitOn '\n' (c :: rest) = (c :: piece) :: pieces := by
      rw [splitOn, hcut]
      simp [hc]
    have hpiece : '\n' ∉ dropEndWhile isSpaceOrTab piece := fun hmem =>
      notMem_of_mem_splitOn (hcut ▸ List.mem_cons_self)
        ((isPrefix_dropEndWhile isSpaceOrTab piece).subset hmem)
    rw [trimLines, trimLines, hlines, hcut, List.map_cons, List.map_cons, dropEndWhile]
    -- what is left of the line tells whether the character ends it
    cases hkept : dropEndWhile isSpaceOrTab piece with
    | nil =>
      cases hblank : isSpaceOrTab c <;> cases pieces <;> simp [joinWith]
    | cons d kept =>
      rw [hkept] at hpiece
      have hd := head_beq_of_notMem hpiece
      cases pieces <;> simp [joinWith, hd]

/-- No space or tab is left before a break. -/
theorem isChain_trimLines (text : List Char) : (trimLines text).IsChain Stays := by
  induction text with
  | nil => exact .nil
  | cons c rest ih =>
    rw [trimLines_cons]
    split
    · exact ih
    · rename_i hkept
      refine List.isChain_cons.mpr ⟨fun next hnext hblank hbreak => hkept ?_, ih⟩
      rw [hblank, Option.mem_def.mp hnext, hbreak]
      rfl

theorem trimLines_of_isChain {text : List Char} (hchain : text.IsChain Stays)
    (hlast : ∀ c ∈ text.getLast?, isSpaceOrTab c = false) : trimLines text = text := by
  induction text with
  | nil => rfl
  | cons c rest ih =>
    obtain ⟨hnext, hrest⟩ := List.isChain_cons.mp hchain
    have hsame : trimLines rest = rest := by
      refine ih hrest fun d hd => hlast d ?_
      rw [List.getLast?_cons, Option.mem_def.mp hd]
      rfl
    -- the character would go only as a space before a break or at the end of the text
    rw [trimLines_cons, hsame, if_neg]
    rw [Bool.and_eq_true]
    rintro ⟨hblank, hbreak⟩
    cases rest with
    | nil =>
      rw [hlast c rfl] at hblank
      cases hblank
    | cons d more =>
      refine hnext d rfl hblank ?_
      simpa using hbreak

/-! ## Breaks in a row -/

theorem head_limitBreaks (text : List Char) : (limitBreaks 0 text).head? = text.head? := by
  cases text with
  | nil => rfl
  | cons c rest =>
    rw [limitBreaks]
    split <;> rfl

/-- Fewer breaks in a row put no blank before a break. -/
theorem isChain_limitBreaks {text : List Char} (h : text.IsChain Stays) (count : Nat) :
    (limitBreaks count text).IsChain Stays := by
  induction text generalizing count with
  | nil => exact .nil
  | cons c rest ih =>
    obtain ⟨hnext, hrest⟩ := List.isChain_cons.mp h
    rw [limitBreaks]
    split
    · rename_i hbreak
      rw [beq_iff_eq] at hbreak
      subst hbreak
      split
      · exact List.isChain_cons.mpr ⟨fun _ _ hblank => absurd hblank (by decide), ih hrest _⟩
      · exact ih hrest count
    · rw [List.isChain_cons, head_limitBreaks]
      exact ⟨hnext, ih hrest 0⟩

theorem limitBreaks_limitBreaks (count : Nat) (text : List Char) :
    limitBreaks count (limitBreaks count text) = limitBreaks count text := by
  induction text generalizing count with
  | nil => rfl
  | cons c rest ih =>
    by_cases hc : c = '\n'
    · subst hc
      rw [limitBreaks_break]
      split
      · rename_i hcount
        rw [limitBreaks_break, if_pos hcount, ih]
      · exact ih count
    · rw [limitBreaks_other hc, limitBreaks_other hc, ih]

/-- What is made of a text is made of its parts one after the other. -/
theorem exists_limitBreaks_append (count : Nat) (front : List Char) :
    ∃ later, ∀ text, limitBreaks count (front ++ text) =
      limitBreaks count front ++ limitBreaks later text := by
  induction front generalizing count with
  | nil => exact ⟨count, fun _ => rfl⟩
  | cons c rest ih =>
    simp only [List.cons_append, limitBreaks]
    split
    · split
      · obtain ⟨later, hlater⟩ := ih (count + 1)
        exact ⟨later, fun text => congrArg (c :: ·) (hlater text)⟩
      · exact ih count
    · obtain ⟨later, hlater⟩ := ih 0
      exact ⟨later, fun text => congrArg (c :: ·) (hlater text)⟩

/-- A piece of a text with no more breaks in a row than allowed is such a text itself. -/
theorem limitBreaks_of_infix {count : Nat} {text piece : List Char}
    (h : limitBreaks count text = text) (hpiece : piece <:+: text) :
    ∃ later, limitBreaks later piece = piece := by
  obtain ⟨front, back, rfl⟩ := hpiece
  obtain ⟨middle, hmiddle⟩ := exists_limitBreaks_append count front
  obtain ⟨last, hlast⟩ := exists_limitBreaks_append middle piece
  rw [List.append_assoc, hmiddle, hlast] at h
  -- no part can make up for what another has lost
  have hlength := congrArg List.length h
  have hfront := (limitBreaks_sublist count front).length_le
  have hpiece := (limitBreaks_sublist middle piece).length_le
  have hback := (limitBreaks_sublist last back).length_le
  simp only [List.length_append] at hlength
  exact ⟨middle, (limitBreaks_sublist middle piece).eq_of_length (by omega)⟩

/-! ## Blanks at both ends -/

/-- Nothing is left between the blanks of a text, or a piece without blanks at either end. -/
theorem trim_ends (text : List Char) :
    trim text = [] ∨
      (∃ c rest, trim text = c :: rest ∧ isBlank c = false) ∧ EndsInBlack (trim text) := by
  by_cases hnil : trim text = []
  · exact .inl hnil
  · obtain ⟨c, rest, hfirst⟩ := List.exists_cons_of_ne_nil hnil
    obtain ⟨back, hback⟩ := isPrefix_dropEndWhile isBlank (text.dropWhile isBlank)
    -- the first character is the first that is not blank, for only the end is cut
    have hc : isBlank c = false := by
      have hhead : c ∈ (text.dropWhile isBlank).head? := by
        rw [← hback]
        show c ∈ (trim text ++ back).head?
        rw [hfirst]
        rfl
      have hnot := List.head?_dropWhile_not isBlank text
      rw [Option.mem_def.mp hhead] at hnot
      simpa using hnot
    refine .inr ⟨⟨c, rest, hfirst, hc⟩, (trim text).dropLast, (trim text).getLast hnil,
      (List.dropLast_concat_getLast hnil).symm, ?_⟩
    exact getLast?_dropEndWhile isBlank _ _ (List.getLast?_eq_some_getLast hnil)

theorem trim_of_ends {text : List Char} (hfirst : ∃ c rest, text = c :: rest ∧ isBlank c = false)
    (hends : EndsInBlack text) : trim text = text := by
  obtain ⟨c, rest, rfl, hc⟩ := hfirst
  have hstart : (c :: rest).dropWhile isBlank = c :: rest := by
    rw [List.dropWhile_cons, hc]
    rfl
  rw [trim, hstart]
  exact hends.dropEndWhile fun _ h => h

/-- The blanks that are left of a text stay. -/
theorem tidyBlanks_tidyBlanks (text : List Char) :
    tidyBlanks (tidyBlanks text) = tidyBlanks text := by
  rcases trim_ends (limitBreaks 0 (trimLines text)) with hnil | ⟨hfirst, hends⟩
  · have hnone : tidyBlanks text = [] := hnil
    rw [hnone]
    rfl
  · obtain ⟨lines, hlines⟩ : ∃ lines, lines = limitBreaks 0 (trimLines text) := ⟨_, rfl⟩
    rw [← hlines] at hfirst hends
    have htrim := trim_of_ends hfirst hends
    have hinfix := isInfix_trim lines
    rw [tidyBlanks, tidyBlanks, ← hlines]
    -- what was true of the whole lines is true of the piece between the blanks
    have hchain : (trim lines).IsChain Stays := by
      rw [hlines]
      rw [hlines] at hinfix
      exact List.IsChain.infix (isChain_limitBreaks (isChain_trimLines text) 0) hinfix
    have hlast : ∀ c ∈ (trim lines).getLast?, isSpaceOrTab c = false := by
      intro c hc
      rw [← Bool.not_eq_true]
      intro hspace
      have hblank := getLast?_dropEndWhile isBlank _ c hc
      rw [isBlank_of_isSpaceOrTab hspace] at hblank
      cases hblank
    have hbreaks : limitBreaks 0 lines = lines := by
      rw [hlines]
      exact limitBreaks_limitBreaks 0 _
    obtain ⟨count, hcount⟩ := limitBreaks_of_infix hbreaks hinfix
    obtain ⟨c, rest, hcons, hc⟩ := hfirst
    -- the piece begins with no break, so the breaks before it do not count
    have hbreak : c ≠ '\n' := by
      rintro rfl
      cases hc
    have hother : ∀ n, limitBreaks n (trim lines) = c :: limitBreaks 0 rest := fun n => by
      rw [hcons, limitBreaks_other hbreak]
    rw [trimLines_of_isChain hchain hlast, hother 0, ← hother count, hcount, htrim]

/-! ## What a pass can still find -/

/-- Pairs of breaks are joined until there are none. -/
theorem joinBreaks_eq_self_iff (text : List Char) :
    joinBreaks text = text ↔ ¬ ['\r', '\n'] <:+: text := by
  fun_induction joinBreaks text with
  | case1 => simp
  | case2 rest ih =>
    constructor
    · intro h
      exact absurd (List.cons.inj h).1 (by decide)
    · intro h
      exact absurd ⟨[], rest, rfl⟩ h
  | case3 c rest hpair ih =>
    have hfirst : ¬ ['\r', '\n'] <+: c :: rest := by
      rintro ⟨back, hback⟩
      obtain ⟨rfl, hrest⟩ := List.cons.inj hback
      exact hpair back rfl hrest.symm
    rw [List.cons_inj_right, ih, List.infix_cons_iff, not_or]
    exact ⟨fun h => ⟨hfirst, h⟩, fun h => h.2⟩

theorem afterEmptyNamespace?_nil : afterEmptyNamespace? [] = none := by
  rw [Option.eq_none_iff_forall_not_mem]
  intro after hafter
  exact Nat.not_lt_zero _ (length_afterEmptyNamespace hafter)

/-- No empty namespace goes from a text that stands behind a character exactly if none begins a line
of it. -/
theorem dropEmptyNamespaces_eq_self_iff (c : Char) (text : List Char) :
    dropEmptyNamespaces (c == '\n') text = text ↔
      ∀ back, '\n' :: back <:+ c :: text → afterEmptyNamespace? back = none := by
  induction text generalizing c with
  | nil =>
    refine ⟨fun _ back hback => ?_, fun _ => by rw [dropEmptyNamespaces]⟩
    have hlength := hback.length_le
    simp only [List.length_cons, List.length_nil, Nat.add_le_add_iff_right, Nat.le_zero,
      List.length_eq_zero_iff] at hlength
    rw [hlength, afterEmptyNamespace?_nil]
  | cons d rest ih =>
    cases hfound : afterEmptyNamespaceIf? (c == '\n') (d :: rest) with
    | some after =>
      -- a namespace that goes makes the text shorter
      obtain ⟨hline, hafter⟩ := afterEmptyNamespace?_of_if hfound
      obtain rfl := beq_iff_eq.mp hline
      constructor
      · intro hsame
        rw [hline, dropEmptyNamespaces_of_some hafter] at hsame
        have hlength := (dropEmptyNamespaces_sublist (after.head? == some '\n')
          (dropBreak after)).length_le
        rw [hsame] at hlength
        have hbreak := length_dropBreak_le after
        have hshorter := length_afterEmptyNamespace hafter
        omega
      · intro hnone
        rw [hnone (d :: rest) (List.suffix_refl _)] at hafter
        cases hafter
    | none =>
      rw [dropEmptyNamespaces_of_none hfound, List.cons_inj_right, ih]
      constructor
      · intro hlater back hback
        rcases List.suffix_cons_iff.mp hback with hfirst | hrest
        · obtain ⟨rfl, rfl⟩ := List.cons.inj hfirst
          exact hfound
        · exact hlater back hrest
      · intro hall back hback
        exact hall back (hback.trans (List.suffix_cons c _))

/-- A text in which a pass finds nothing to take out but blanks: no pair of breaks, no hidden heading
and, if there is a marker, no empty namespace at the start of a line. -/
structure IsSettled (marker text : List Char) : Prop where
  breaks : ¬ ['\r', '\n'] <:+: text
  headings : ∀ heading ∈ headings text, Visibility.isHidden marker heading.identifier = false
  namespaces : marker ≠ [] →
    ∀ back, '\n' :: back <:+ '\n' :: text → afterEmptyNamespace? back = none

theorem removeHidden_eq_self_iff (text : List Char) :
    removeHidden marker text = text ↔
      ∀ heading ∈ headings text, Visibility.holds marker heading.identifier = false := by
  refine ⟨fun h => ?_, removeFrom_of_headings⟩
  have hclean := headingsFrom_removeFrom marker true text
  have hsame : removeFrom marker true text = text := h
  rwa [hsame] at hclean

theorem removeMarked_eq_self_iff (text : List Char) :
    removeMarked marker text = text ↔
      (∀ heading ∈ headings text, Visibility.isHidden marker heading.identifier = false) ∧
        (marker ≠ [] →
          ∀ back, '\n' :: back <:+ '\n' :: text → afterEmptyNamespace? back = none) := by
  cases marker with
  | nil => simp [removeMarked, Visibility.isHidden]
  | cons m more =>
    have hmarked : removeMarked (m :: more) text =
        dropEmptyNamespaces true (removeHidden (m :: more) text) := rfl
    have hlines : dropEmptyNamespaces true text = text ↔ _ :=
      dropEmptyNamespaces_eq_self_iff '\n' text
    have hhidden : ∀ t, (removeHidden (m :: more) t).Sublist t :=
      removeFrom_sublist (m :: more) true
    rw [hmarked, comp_eq_self_iff hhidden (dropEmptyNamespaces_sublist true),
      removeHidden_eq_self_iff, hlines]
    simp [Visibility.isHidden]

/-! ## Passes -/

theorem isSettled_nil (marker : List Char) : IsSettled marker [] where
  breaks := by simp
  headings := by
    rw [headings, headingsFrom]
    simp
  namespaces _ := (dropEmptyNamespaces_eq_self_iff '\n' []).mp (by rw [dropEmptyNamespaces])

/-- Of a text whose blanks are in order another pass makes the same text exactly if it is settled. -/
theorem finish_eq_self_iff_isSettled {text : List Char} (h : tidyBlanks text = text) :
    finish marker text = text ↔ IsSettled marker text := by
  rcases trim_ends (limitBreaks 0 (trimLines text)) with hnil | ⟨⟨c, rest, hfirst, hc⟩, -⟩
  · obtain rfl : text = [] := h.symm.trans hnil
    exact ⟨fun _ => isSettled_nil marker, fun _ => rfl⟩
  · have hcons : text = c :: rest := h.symm.trans hfirst
    have hblank : allBlank text = false := by
      rw [hcons, allBlank, List.all_cons, hc]
      rfl
    rw [finish_eq_self_iff hblank, joinBreaks_eq_self_iff, removeMarked_eq_self_iff]
    constructor
    · rintro ⟨hbreaks, ⟨hheadings, hnamespaces⟩, -⟩
      exact ⟨hbreaks, hheadings, hnamespaces⟩
    · rintro ⟨hbreaks, hheadings, hnamespaces⟩
      exact ⟨hbreaks, ⟨hheadings, hnamespaces⟩, h⟩

theorem tidyBlanks_finish (marker text : List Char) :
    tidyBlanks (finish marker text) = finish marker text := by
  cases hblank : allBlank text with
  | true =>
    rw [finish, hblank]
    rfl
  | false =>
    rw [finish_of_not_blank hblank]
    exact tidyBlanks_tidyBlanks _

/-- A second pass over a text only takes characters out, and it takes none out exactly if the first
has left no pair of breaks, no hidden heading and no empty namespace. -/
theorem finishWith_twice (marker code : String) :
    ∃ once twice : String, finishWith (.str marker) code = .ok once ∧
      finishWith (.str marker) once = .ok twice ∧
      twice.toList.Sublist once.toList ∧
      (twice = once ↔ IsSettled marker.toList once.toList) := by
  refine ⟨_, _, finishWith_str marker code, finishWith_str marker _, ?_, ?_⟩
  · simp only [String.toList_ofList]
    exact finish_sublist _ _
  · simp only [String.toList_ofList]
    rw [← String.toList_inj, String.toList_ofList, String.toList_ofList]
    exact finish_eq_self_iff_isSettled (tidyBlanks_finish _ _)

/-- A namespace that holds nothing but an empty one is left by a first pass, and goes with a second. -/
theorem finishWith_nested :
    let code := "declare namespace A \x7b\ndeclare namespace B \x7b\n\x7d\n\x7d"
    let once := "declare namespace A \x7b\n\x7d"
    finishWith (.str "Guid") code = .ok once ∧ finishWith (.str "Guid") once = .ok "" ∧
      once ≠ "" := by
  decide +kernel

end Ambient.Sweep
