/-
  Ambient.Proofs.Sweep.Shrinking

  A pass over a text only takes characters out: each of its steps gives a part of the text in the
  order of the text, and so does the pass as a whole (`finish_sublist`). A pass that gives the text
  back has therefore nothing to do in any of its steps (`finish_eq_self_iff`).
-/
import Ambient.Proofs.Sweep.Scan
import Ambient.Proofs.Text.Edges
import Ambient.Sweep.Finish
import Mathlib.Data.List.Basic

namespace Ambient

namespace Text

/-- Where parts of the pieces are joined, the whole is a part of the joined pieces. -/
theorem joinWith_map_sublist {f : List Char → List Char} (hf : ∀ piece, (f piece).Sublist piece)
    (sep : List Char) (pieces : List (List Char)) :
    (joinWith sep (pieces.map f)).Sublist (joinWith sep pieces) := by
  induction pieces with
  | nil => exact .slnil
  | cons piece rest ih =>
    cases rest with
    | nil => exact hf piece
    | cons next more => exact ((hf piece).append (.refl sep)).append ih

end Text

namespace Sweep

open Text

variable {marker : List Char}

/-! ## Hidden declarations -/

theorem afterWord?_suffix {word : String} {text after : List Char}
    (h : afterWord? word text = some after) : after <:+ text := by
  obtain ⟨front, -, -, htext⟩ := afterWord?_split h
  exact ⟨front, htext.symm⟩

theorem after_heading_suffix {text : List Char} {heading : Heading}
    (h : heading? text = some heading) : heading.after <:+ text := by
  obtain ⟨front, htext, -⟩ := heading?_replace h
  exact ⟨front, htext.symm⟩

theorem dropBlankRest_suffix (text : List Char) : dropBlankRest text <:+ text := by
  unfold dropBlankRest
  split
  · exact (List.drop_suffix 1 _).trans (List.dropWhile_suffix _)
  · exact List.suffix_refl text

theorem rest_suffix (heading : Heading) : heading.rest <:+ heading.after := by
  unfold Heading.rest
  refine (dropBlankRest_suffix _).trans ?_
  split
  · exact afterTerminator_suffix 0 _
  · exact afterBlock_suffix _

theorem removeFrom_sublist (marker : List Char) (anchored : Bool) (text : List Char) :
    (removeFrom marker anchored text).Sublist text := by
  fun_induction removeFrom marker anchored text with
  | case1 => exact .slnil
  | case2 anchored c rest heading hfound _ _ hhidden ih =>
    obtain ⟨-, hheading⟩ := heading?_of_headingIf hfound
    exact ih.trans ((rest_suffix heading).trans (after_heading_suffix hheading)).sublist
  | case3 anchored c rest heading hfound _ _ hvisible ih =>
    obtain ⟨-, hheading⟩ := heading?_of_headingIf hfound
    obtain ⟨front, htext, -⟩ := heading?_replace hheading
    rw [take_front htext, htext]
    exact (List.Sublist.refl front).append ih
  | case4 anchored c rest hnone ih => exact ih.cons_cons c

/-! ## Empty namespaces -/

theorem afterSign?_suffix {sign : Char} {text after : List Char}
    (h : afterSign? sign text = some after) : after <:+ text := by
  unfold afterSign? at h
  have hdrop := List.dropWhile_suffix (l := text) isBlank
  split at h
  · rename_i c rest heq
    split at h
    · cases h
      rw [heq] at hdrop
      exact (List.suffix_cons c _).trans hdrop
    · cases h
  · cases h

/-- An empty namespace begins with a word, and what follows it is a part of what follows that word. -/
theorem afterEmptyNamespace?_declare {text after : List Char}
    (h : afterEmptyNamespace? text = some after) :
    ∃ second, afterWord? "declare" (text.dropWhile isSpaceOrTab) = some second ∧
      after <:+ second := by
  unfold afterEmptyNamespace? at h
  obtain ⟨second, hdeclare, h⟩ := Option.bind_eq_some_iff.mp h
  obtain ⟨third, hnamespace, h⟩ := Option.bind_eq_some_iff.mp h
  split at h
  · cases h
  · obtain ⟨inner, hopen, h⟩ := Option.bind_eq_some_iff.mp h
    obtain ⟨last, hclose, h⟩ := Option.bind_eq_some_iff.mp h
    cases h
    have hnames : third.dropWhile isDottedChar <:+ second :=
      (List.dropWhile_suffix _).trans (afterWord?_suffix hnamespace)
    exact ⟨second, hdeclare, (List.dropWhile_suffix _).trans ((afterSign?_suffix hclose).trans
      ((afterSign?_suffix hopen).trans hnames))⟩

theorem afterEmptyNamespace?_suffix {text after : List Char}
    (h : afterEmptyNamespace? text = some after) : after <:+ text := by
  obtain ⟨second, hdeclare, hafter⟩ := afterEmptyNamespace?_declare h
  exact hafter.trans ((afterWord?_suffix hdeclare).trans (List.dropWhile_suffix _))

theorem dropBreak_suffix (text : List Char) : dropBreak text <:+ text := by
  unfold dropBreak
  split
  · exact List.suffix_refl _
  · split
    · exact List.suffix_cons _ _
    · exact List.suffix_refl _

theorem afterEmptyNamespace?_of_if {atLine : Bool} {text after : List Char}
    (h : afterEmptyNamespaceIf? atLine text = some after) :
    atLine = true ∧ afterEmptyNamespace? text = some after := by
  unfold afterEmptyNamespaceIf? at h
  split at h
  · rename_i hline
    exact ⟨hline, h⟩
  · cases h

theorem dropEmptyNamespaces_sublist (atLine : Bool) (text : List Char) :
    (dropEmptyNamespaces atLine text).Sublist text := by
  fun_induction dropEmptyNamespaces atLine text with
  | case1 => exact .slnil
  | case2 atLine c rest after hfound _ ih =>
    obtain ⟨-, hafter⟩ := afterEmptyNamespace?_of_if hfound
    exact ih.trans
      ((dropBreak_suffix after).trans (afterEmptyNamespace?_suffix hafter)).sublist
  | case3 atLine c rest hnone ih => exact ih.cons_cons c

theorem removeMarked_sublist (marker text : List Char) :
    (removeMarked marker text).Sublist text := by
  unfold removeMarked
  split
  · exact .refl text
  · exact (dropEmptyNamespaces_sublist true _).trans (removeFrom_sublist marker true text)

/-! ## Breaks and blanks -/

theorem joinBreaks_sublist (text : List Char) : (joinBreaks text).Sublist text := by
  fun_induction joinBreaks text with
  | case1 => exact .slnil
  | case2 rest ih => exact (ih.cons_cons '\n').cons '\r'
  | case3 c rest hpair ih => exact ih.cons_cons c

theorem trimLines_sublist (text : List Char) : (trimLines text).Sublist text := by
  have hlines : ∀ line, (dropEndWhile isSpaceOrTab line).Sublist line := fun line =>
    (isPrefix_dropEndWhile isSpaceOrTab line).sublist
  have hparts := joinWith_map_sublist hlines ['\n'] (splitOn '\n' text)
  rwa [joinWith_splitOn] at hparts

theorem limitBreaks_sublist (count : Nat) (text : List Char) :
    (limitBreaks count text).Sublist text := by
  induction text generalizing count with
  | nil => exact .slnil
  | cons c rest ih =>
    rw [limitBreaks]
    split
    · split
      · exact (ih _).cons_cons c
      · exact (ih _).cons c
    · exact (ih 0).cons_cons c

/-! ## Passes -/

/-- Two steps that only take characters out give a text back if each of them does: the second cannot
put back what the first has taken out. -/
theorem comp_eq_self_iff {f g : List Char → List Char} (hf : ∀ text, (f text).Sublist text)
    (hg : ∀ text, (g text).Sublist text) (text : List Char) :
    g (f text) = text ↔ f text = text ∧ g text = text := by
  constructor
  · intro h
    have hfirst : f text = text := by
      refine (hf text).antisymm ?_
      conv_lhs => rw [← h]
      exact hg (f text)
    rw [hfirst] at h
    exact ⟨hfirst, h⟩
  · rintro ⟨hfirst, hsecond⟩
    rw [hfirst, hsecond]

/-- The text with its blanks in order: none at the ends of its lines and at both of its ends, and no
more than two line breaks in a row. -/
def tidyBlanks (text : List Char) : List Char :=
  trim (limitBreaks 0 (trimLines text))

theorem tidyBlanks_sublist (text : List Char) : (tidyBlanks text).Sublist text :=
  (isInfix_trim _).sublist.trans ((limitBreaks_sublist 0 _).trans (trimLines_sublist text))

theorem finish_of_not_blank {text : List Char} (h : allBlank text = false) :
    finish marker text = tidyBlanks (removeMarked marker (joinBreaks text)) := by
  rw [finish, h]
  rfl

/-- A pass only takes characters out. -/
theorem finish_sublist (marker text : List Char) : (finish marker text).Sublist text := by
  cases hblank : allBlank text with
  | true =>
    rw [finish, hblank]
    exact List.nil_sublist text
  | false =>
    rw [finish_of_not_blank hblank]
    exact (tidyBlanks_sublist _).trans ((removeMarked_sublist marker _).trans
      (joinBreaks_sublist text))

/-- A pass gives a text back if each of its steps does. -/
theorem finish_eq_self_iff {text : List Char} (h : allBlank text = false) :
    finish marker text = text ↔
      joinBreaks text = text ∧ removeMarked marker text = text ∧ tidyBlanks text = text := by
  have hlater : ∀ t, (tidyBlanks (removeMarked marker t)).Sublist t := fun t =>
    (tidyBlanks_sublist _).trans (removeMarked_sublist marker t)
  rw [finish_of_not_blank h, comp_eq_self_iff joinBreaks_sublist hlater,
    comp_eq_self_iff (removeMarked_sublist marker) tidyBlanks_sublist]

end Sweep

end Ambient
