/-
  Ambient.Proofs.Sweep.Form

  The form that every finished text has, and what a pass leaves of a text. The blanks of a finished
  text are in order whatever the text was. Its other characters are those of the text, in their
  order, exactly where nothing is hidden and no namespace is empty: a declaration or a namespace that
  goes takes more than blanks with it (`finishWith_form`).
-/
import Ambient.Proofs.Sweep.Settling

namespace Ambient

namespace Sweep

open Text

variable {marker : List Char}

/-! ## Steps that take out blanks only -/

theorem blacks_joinBreaks (text : List Char) : blacks (joinBreaks text) = blacks text := by
  fun_induction joinBreaks text with
  | case1 => rfl
  | case2 rest ih =>
    rw [blacks_cons_of_blank (by decide), blacks_cons_of_blank (by decide),
      blacks_cons_of_blank (by decide), ih]
  | case3 c rest hpair ih => exact blacks_cons_congr c ih

theorem blacks_trimLines (text : List Char) : blacks (trimLines text) = blacks text := by
  induction text with
  | nil => rfl
  | cons c rest ih =>
    rw [trimLines_cons]
    split
    · rename_i hgoes
      have hblank := isBlank_of_isSpaceOrTab ((Bool.and_eq_true _ _).mp hgoes).1
      rw [ih, blacks_cons_of_blank hblank]
    · exact blacks_cons_congr c ih

theorem blacks_limitBreaks (count : Nat) (text : List Char) :
    blacks (limitBreaks count text) = blacks text := by
  induction text generalizing count with
  | nil => rfl
  | cons c rest ih =>
    by_cases hc : c = '\n'
    · subst hc
      rw [limitBreaks_break]
      split
      · exact blacks_cons_congr '\n' (ih _)
      · rw [ih, blacks_cons_of_blank (by decide)]
    · rw [limitBreaks_other hc]
      exact blacks_cons_congr c (ih 0)

theorem blacks_tidyBlanks (text : List Char) : blacks (tidyBlanks text) = blacks text := by
  rw [tidyBlanks, blacks_trim, blacks_limitBreaks, blacks_trimLines]

/-! ## Steps that take out more -/

/-- A piece before a text that stays, or loses more than blanks, changes nothing about that. -/
theorem eq_append_or_lt (front : List Char) {kept text : List Char}
    (h : kept = text ∨ (blacks kept).length < (blacks text).length) :
    front ++ kept = front ++ text ∨
      (blacks (front ++ kept)).length < (blacks (front ++ text)).length := by
  rcases h with rfl | hlt
  · exact .inl rfl
  · refine .inr ?_
    rw [blacks_append, blacks_append, List.length_append, List.length_append]
    omega

/-- A sweep leaves a text as it is, or takes out the keyword of a declaration at least. -/
theorem removeFrom_eq_self_or_lt (marker : List Char) (anchored : Bool) (text : List Char) :
    removeFrom marker anchored text = text ∨
      (blacks (removeFrom marker anchored text)).length < (blacks text).length := by
  fun_induction removeFrom marker anchored text with
  | case1 => exact .inl rfl
  | case2 anchored c rest heading hfound _ _ hhidden ih =>
    obtain ⟨-, hheading⟩ := heading?_of_headingIf hfound
    obtain ⟨front, htext, ⟨last, hlast, hchar⟩, -⟩ := heading?_replace hheading
    have hblack : isBlank last = false := by
      rw [← Bool.not_eq_true]
      intro hblank
      rw [isIdentifierChar_of_isBlank hblank] at hchar
      cases hchar
    -- what is left is a part of what follows the heading
    have hpart : (removeFrom marker anchored heading.rest).Sublist heading.after :=
      (removeFrom_sublist marker anchored _).trans (rest_suffix heading).sublist
    have hle := length_blacks_le hpart
    have hlt := length_blacks_lt (List.mem_of_getLast? hlast) hblack heading.after
    rw [← htext] at hlt
    exact .inr (Nat.lt_of_le_of_lt hle hlt)
  | case3 anchored c rest heading hfound _ _ hvisible ih =>
    obtain ⟨-, hheading⟩ := heading?_of_headingIf hfound
    obtain ⟨front, htext, -⟩ := heading?_replace hheading
    rw [take_front htext, htext]
    exact eq_append_or_lt front ih
  | case4 anchored c rest hnone ih => exact eq_append_or_lt [c] ih

/-- An empty namespace takes at least a word with it. -/
theorem length_blacks_afterEmptyNamespace {text after : List Char}
    (h : afterEmptyNamespace? text = some after) :
    (blacks after).length < (blacks text).length := by
  obtain ⟨second, hdeclare, hafter⟩ := afterEmptyNamespace?_declare h
  obtain ⟨front, -, hword, htext⟩ := afterWord?_split hdeclare
  have hle := length_blacks_le hafter.sublist
  have hlt := length_blacks_lt (hword.subset (show 'd' ∈ "declare".toList by decide)) (by decide)
    second
  rw [← htext, blacks_dropWhile fun _ => isBlank_of_isSpaceOrTab] at hlt
  exact Nat.lt_of_le_of_lt hle hlt

theorem dropEmptyNamespaces_eq_self_or_lt (atLine : Bool) (text : List Char) :
    dropEmptyNamespaces atLine text = text ∨
      (blacks (dropEmptyNamespaces atLine text)).length < (blacks text).length := by
  fun_induction dropEmptyNamespaces atLine text with
  | case1 => exact .inl rfl
  | case2 atLine c rest after hfound _ ih =>
    obtain ⟨-, hafter⟩ := afterEmptyNamespace?_of_if hfound
    have hpart : (dropEmptyNamespaces (after.head? == some '\n') (dropBreak after)).Sublist after :=
      (dropEmptyNamespaces_sublist _ _).trans (dropBreak_suffix after).sublist
    have hle := length_blacks_le hpart
    exact .inr (Nat.lt_of_le_of_lt hle (length_blacks_afterEmptyNamespace hafter))
  | case3 atLine c rest hnone ih => exact eq_append_or_lt [c] ih

/-- A removal that takes out no more than blanks takes out nothing. -/
theorem blacks_removeMarked_iff (text : List Char) :
    blacks (removeMarked marker text) = blacks text ↔ removeMarked marker text = text := by
  refine ⟨fun h => ?_, fun h => by rw [h]⟩
  have hlength := congrArg List.length h
  unfold removeMarked at hlength ⊢
  split
  · rfl
  · rename_i hmarker
    rw [if_neg hmarker] at hlength
    have hlater := length_blacks_le (dropEmptyNamespaces_sublist true (removeHidden marker text))
    have hhidden : removeHidden marker text = text :=
      (removeFrom_eq_self_or_lt marker true text).resolve_right
        fun hlt => absurd (Nat.lt_of_le_of_lt hlater hlt) (by omega)
    rw [hhidden] at hlength ⊢
    exact (dropEmptyNamespaces_eq_self_or_lt true text).resolve_right (by omega)

/-! ## The form of a finished text -/

/-- A text with its blanks in order: none at either end, no space or tab at the end of a line, and no
three line breaks in a row. -/
structure IsTidy (text : List Char) : Prop where
  start : ∀ c ∈ text.head?, isBlank c = false
  last : ∀ c ∈ text.getLast?, isBlank c = false
  lines : ∀ line ∈ splitOn '\n' text, ∀ c ∈ line.getLast?, isSpaceOrTab c = false
  breaks : ¬ ['\n', '\n', '\n'] <:+: text

/-- Lines that are not touched by trimming do not end in spaces and tabs. -/
theorem getLast?_of_trimLines {text : List Char} (h : trimLines text = text) :
    ∀ line ∈ splitOn '\n' text, ∀ c ∈ line.getLast?, isSpaceOrTab c = false := by
  have hbreak : ∀ line ∈ (splitOn '\n' text).map (dropEndWhile isSpaceOrTab), '\n' ∉ line := by
    intro line hline
    obtain ⟨whole, hwhole, rfl⟩ := List.mem_map.mp hline
    exact fun hmem => notMem_of_mem_splitOn hwhole ((isPrefix_dropEndWhile _ whole).subset hmem)
  have hcut := splitOn_joinWith (by simpa using splitOn_ne_nil '\n' text) hbreak
  intro line hline
  rw [← h, trimLines, hcut] at hline
  obtain ⟨whole, -, rfl⟩ := List.mem_map.mp hline
  exact getLast?_dropEndWhile isSpaceOrTab whole

/-- Three breaks in a row are too many, whatever stands before them. -/
theorem not_isInfix_of_limitBreaks {text : List Char} (h : limitBreaks 0 text = text) :
    ¬ ['\n', '\n', '\n'] <:+: text := by
  intro hinfix
  obtain ⟨later, hlater⟩ := limitBreaks_of_infix h hinfix
  rcases later with _ | _ | more
  · exact absurd hlater (by decide)
  · exact absurd hlater (by decide)
  · have hfull : ¬ more + 1 + 1 < 2 := by omega
    simp [limitBreaks, hfull] at hlater

theorem isTidy_of_tidyBlanks {text : List Char} (h : tidyBlanks text = text) : IsTidy text := by
  obtain ⟨hlines, hlater⟩ := (comp_eq_self_iff trimLines_sublist
    (fun t => (isInfix_trim _).sublist.trans (limitBreaks_sublist 0 t)) text).mp h
  obtain ⟨hbreaks, htrim⟩ := (comp_eq_self_iff (limitBreaks_sublist 0)
    (fun t => (isInfix_trim t).sublist) text).mp hlater
  have hends := trim_ends text
  rw [htrim] at hends
  refine ⟨?_, ?_, getLast?_of_trimLines hlines, not_isInfix_of_limitBreaks hbreaks⟩
  · rcases hends with rfl | ⟨⟨first, rest, rfl, hfirst⟩, -⟩
    · simp
    · simpa using hfirst
  · rcases hends with rfl | ⟨-, front, last, rfl, hlast⟩
    · simp
    · simpa using hlast

/-- A text in which a marker hides nothing: it has no declaration whose name holds the marker, and no
namespace at the start of a line that is empty. -/
structure IsClean (marker text : List Char) : Prop where
  headings : ∀ heading ∈ headings text, Visibility.isHidden marker heading.identifier = false
  namespaces : ∀ back, '\n' :: back <:+ '\n' :: text → afterEmptyNamespace? back = none

theorem removeMarked_eq_self_iff_isClean (text : List Char) :
    removeMarked marker text = text ↔ marker = [] ∨ IsClean marker text := by
  rw [removeMarked_eq_self_iff]
  by_cases hmarker : marker = []
  · subst hmarker
    simp [Visibility.isHidden]
  · simp only [hmarker, false_or, ne_eq, not_false_eq_true, forall_const]
    exact ⟨fun h => ⟨h.1, h.2⟩, fun h => ⟨h.headings, h.namespaces⟩⟩

/-- A pass takes out no more than blanks exactly if there is nothing to remove. -/
theorem blacks_finish_iff (marker text : List Char) :
    blacks (finish marker text) = blacks text ↔
      removeMarked marker (joinBreaks text) = joinBreaks text := by
  rw [← blacks_removeMarked_iff, blacks_joinBreaks]
  cases hblank : allBlank text with
  | true =>
    -- a blank text has nothing to lose but blanks
    have hnone : blacks text = [] := blacks_of_allBlank hblank
    have hle := length_blacks_le ((removeMarked_sublist marker _).trans (joinBreaks_sublist text))
    rw [hnone, List.length_nil, Nat.le_zero, List.length_eq_zero_iff] at hle
    rw [finish, hblank, hnone, hle]
    exact iff_of_true rfl rfl
  | false => rw [finish_of_not_blank hblank, blacks_tidyBlanks]

/-- The finished text has its blanks in order. Beyond blanks nothing is taken out exactly if there is
no marker, or nothing that it hides. -/
theorem finishWith_form (marker code : String) :
    ∃ result : String, finishWith (.str marker) code = .ok result ∧ IsTidy result.toList ∧
      (blacks result.toList = blacks code.toList ↔
        marker = "" ∨ IsClean marker.toList (joinBreaks code.toList)) := by
  refine ⟨_, finishWith_str marker code, ?_, ?_⟩
  · rw [String.toList_ofList]
    exact isTidy_of_tidyBlanks (tidyBlanks_finish _ _)
  · rw [String.toList_ofList, blacks_finish_iff, removeMarked_eq_self_iff_isClean]
    simp

end Sweep

end Ambient
