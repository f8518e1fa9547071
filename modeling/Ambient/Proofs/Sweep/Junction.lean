/-
  Ambient.Proofs.Sweep.Junction

  Texts that are cut and joined. What has been read of a heading before its identifier ends with a
  blank; so a heading stays the same whatever follows its identifier, unless the identifier goes on
  there (`heading?_replace`), and no heading reaches over a place where another one begins unless it
  did so before (`heading?_junction`).
-/
import Ambient.Proofs.Sweep.Phase

namespace Ambient.Sweep

open Text

/-! ## What a heading is made of -/

/-- Where the code points of blanks begin, and how many follow one another there. -/
def blankSpans : List (Nat × Nat) :=
  [(9, 5), (28, 5), (0x85, 1), (0xA0, 1), (0x1680, 1), (0x2000, 11), (0x2028, 2), (0x202F, 1),
    (0x205F, 1), (0x3000, 1)]

theorem mem_blankSpans {c : Char} (h : isBlank c = true) :
    ∃ span ∈ blankSpans, span.1 ≤ c.toNat ∧ c.toNat < span.1 + span.2 := by
  simp only [isBlank, Bool.or_eq_true, Bool.and_eq_true, decide_eq_true_eq, beq_iff_eq] at h
  simp only [blankSpans, List.mem_cons, List.not_mem_nil, or_false, exists_eq_or_imp,
    exists_eq_left]
  omega

/-- No blank is a character of a word. -/
theorem isIdentifierChar_of_isBlank {c : Char} (h : isBlank c = true) :
    isIdentifierChar c = false := by
  have hchars : ∀ span ∈ blankSpans, ∀ k < span.2,
      isIdentifierChar (Char.ofNat (span.1 + k)) = false := by
    decide +kernel
  obtain ⟨span, hspan, hlow, hhigh⟩ := mem_blankSpans h
  have hc := hchars span hspan (c.toNat - span.1) (by omega)
  rwa [Nat.add_sub_cancel' hlow, Char.ofNat_toNat] at hc

/-- Blanks that were passed over belong to what has been read, which they end. -/
theorem EndsOutside.append_takeWhile {front : List Char} (h : EndsOutside front)
    (text : List Char) : EndsOutside (front ++ text.takeWhile isBlank) := by
  by_cases hnil : text.takeWhile isBlank = []
  · rwa [hnil, List.append_nil]
  · have hlast : EndsOutside (text.takeWhile isBlank) :=
      ⟨_, List.getLast?_eq_some_getLast hnil,
        isIdentifierChar_of_isBlank (List.mem_takeWhile_imp (List.getLast_mem hnil))⟩
    exact hlast.append front

/-- A word that is found begins the text, and what has been read ends with a blank. -/
theorem afterWord?_split {word : String} {text after : List Char}
    (h : afterWord? word text = some after) :
    ∃ front, EndsOutside front ∧ word.toList <+: front ∧ text = front ++ after := by
  unfold afterWord? at h
  split at h
  · rename_i c rest hfirst
    split at h
    · rename_i hblank
      cases h
      have htext := afterPrefix?_eq_some_iff.mp hfirst
      refine ⟨word.toList ++ [c] ++ rest.takeWhile isBlank, ?_, ?_, ?_⟩
      · exact (EndsOutside.concat (isIdentifierChar_of_isBlank hblank) _).append_takeWhile rest
      · exact ⟨[c] ++ rest.takeWhile isBlank, by simp⟩
      · rw [htext, List.append_assoc, List.takeWhile_append_dropWhile, List.append_assoc]
        rfl
    · cases h
  · cases h

/-- Words that can come before an identifier. -/
def IsOpening (word : List Char) : Prop :=
  ∃ c rest, word = c :: rest ∧ isIdentifierStart c = true

theorem IsOpening.of_front {word front : List Char} (h : IsOpening word) (hfirst : word <+: front)
    (text : List Char) : IsOpening (front ++ text) := by
  obtain ⟨c, rest, rfl, hc⟩ := h
  obtain ⟨tail, rfl⟩ := hfirst
  exact ⟨c, rest ++ tail ++ text, rfl, hc⟩

/-- So does the first of some words. -/
theorem afterAny?_split {κ : Type} {words : List (String × κ)}
    (hwords : words.all (·.1.toList.head?.any isIdentifierStart) = true) {text after : List Char}
    {meaning : κ} (h : afterAny? words text = some (meaning, after)) :
    ∃ front, EndsOutside front ∧ text = front ++ after ∧ IsOpening text := by
  obtain ⟨⟨word, other⟩, hmem, hfound⟩ := List.exists_of_findSome?_eq_some h
  obtain ⟨rest, hword, heq⟩ := Option.map_eq_some_iff.mp hfound
  cases heq
  obtain ⟨front, hfront, hfirst, rfl⟩ := afterWord?_split hword
  have hopening : IsOpening word.toList := by
    have hstart := List.all_eq_true.mp hwords _ hmem
    obtain ⟨c, hhead, hc⟩ := Option.any_eq_true _ _ |>.mp hstart
    obtain ⟨tail, htail⟩ := List.head?_eq_some_iff.mp hhead
    exact ⟨c, tail, htail, hc⟩
  exact ⟨front, hfront, rfl, hopening.of_front hfirst _⟩

theorem afterModifier?_split {text after : List Char} (h : afterModifier? text = some after) :
    ∃ front, EndsOutside front ∧ text = front ++ after ∧ IsOpening text := by
  have hwords : modifierWords.all (·.1.toList.head?.any isIdentifierStart) = true := by decide
  rw [afterModifier?_eq] at h
  obtain ⟨⟨_, rest⟩, hfound, rfl⟩ := Option.map_eq_some_iff.mp h
  exact afterAny?_split hwords hfound

theorem afterModifiers_split (text : List Char) :
    ∃ front, (front = [] ∨ EndsOutside front ∧ IsOpening text) ∧
      text = front ++ afterModifiers text := by
  fun_induction afterModifiers text with
  | case1 text rest hsome _ ih =>
    obtain ⟨first, hfirst, htext, hopening⟩ := afterModifier?_split hsome
    obtain ⟨front, hfront, hrest⟩ := ih
    refine ⟨first ++ front, .inr ⟨?_, hopening⟩, ?_⟩
    · rcases hfront with rfl | ⟨hlater, -⟩
      · rwa [List.append_nil]
      · exact hlater.append first
    · rw [List.append_assoc, ← hrest]
      exact htext
  | case2 text => exact ⟨[], .inl rfl, rfl⟩

theorem afterKeyword?_split {text after : List Char} {keyword : Keyword}
    (h : afterKeyword? text = some (keyword, after)) :
    ∃ front, EndsOutside front ∧ text = front ++ after ∧ IsOpening text := by
  have hwords : keywordWords.all (·.1.toList.head?.any isIdentifierStart) = true := by decide
  rw [afterKeyword?_eq] at h
  exact afterAny?_split hwords h

/-- Whether a text is an identifier, of which all characters belong to one word. -/
def IsWord (text : List Char) : Prop :=
  ∃ c rest, text = c :: rest ∧ isIdentifierStart c = true ∧ ∀ d ∈ rest, isIdentifierChar d = true

theorem identifier?_split {text identifier after : List Char}
    (h : identifier? text = some (identifier, after)) :
    text = identifier ++ after ∧ IsWord identifier := by
  unfold identifier? at h
  split at h
  · rename_i c rest
    split at h
    · rename_i hstart
      cases h
      refine ⟨?_, c, _, rfl, hstart, fun d hd => List.mem_takeWhile_imp hd⟩
      rw [List.cons_append, List.takeWhile_append_dropWhile]
    · cases h
  · cases h

/-- An identifier ends where no character of a word follows. -/
theorem head_after_identifier {text identifier after : List Char}
    (h : identifier? text = some (identifier, after)) :
    ∀ c ∈ after.head?, isIdentifierChar c = false := by
  unfold identifier? at h
  split at h
  · rename_i first rest
    split at h
    · cases h
      intro c hc
      have hnot := List.head?_dropWhile_not isIdentifierChar rest
      rw [Option.mem_def.mp hc] at hnot
      exact hnot
    · cases h
  · cases h

theorem IsWord.getLast {word : List Char} (h : IsWord word) :
    ∃ last, word.getLast? = some last ∧ isIdentifierChar last = true := by
  obtain ⟨c, rest, rfl, hstart, hrest⟩ := h
  have hall : ∀ d ∈ c :: rest, isIdentifierChar d = true := by
    intro d hd
    rcases List.mem_cons.mp hd with rfl | hmem
    · exact isIdentifierChar_of_isNameChar (isNameChar_of_isNameStart hstart)
    · exact hrest d hmem
  have hne : c :: rest ≠ [] := List.cons_ne_nil c rest
  exact ⟨_, List.getLast?_eq_some_getLast hne, hall _ (List.getLast_mem hne)⟩

/-- A word is read as a whole where no character of a word follows it. -/
theorem identifier?_word {word rest : List Char} (h : IsWord word)
    (hrest : ∀ c ∈ rest.head?, isIdentifierChar c = false) :
    identifier? (word ++ rest) = some (word, rest) := by
  obtain ⟨c, more, rfl, hstart, hmore⟩ := h
  have hnone : rest.takeWhile isIdentifierChar = [] ∧ rest.dropWhile isIdentifierChar = rest := by
    cases rest with
    | nil => exact ⟨rfl, rfl⟩
    | cons d tail =>
      have hd : isIdentifierChar d = false := hrest d rfl
      exact ⟨by rw [List.takeWhile_cons, hd]; rfl, by rw [List.dropWhile_cons, hd]; rfl⟩
  rw [List.cons_append, identifier?, if_pos hstart, List.takeWhile_append_of_pos hmore,
    List.dropWhile_append_of_pos hmore, hnone.1, hnone.2, List.append_nil]

theorem declared?_parts {text : List Char} {heading : Heading} (h : declared? text = some heading) :
    ∃ rest, afterKeyword? (afterModifiers text) = some (heading.keyword, rest) ∧
      identifier? rest = some (heading.identifier, heading.after) := by
  unfold declared? at h
  obtain ⟨⟨keyword, rest⟩, hkeyword, h⟩ := Option.bind_eq_some_iff.mp h
  obtain ⟨⟨identifier, after⟩, hidentifier, h⟩ := Option.bind_eq_some_iff.mp h
  cases h
  exact ⟨rest, hkeyword, hidentifier⟩

/-- What a heading is read from: something that ends outside words, the identifier, and the rest. -/
theorem declared?_split {text : List Char} {heading : Heading} (h : declared? text = some heading) :
    IsWord heading.identifier ∧ IsOpening text ∧
      ∃ front, EndsOutside front ∧ text = front ++ (heading.identifier ++ heading.after) := by
  obtain ⟨rest, hkeyword, hidentifier⟩ := declared?_parts h
  obtain ⟨first, hfirst, htext⟩ := afterModifiers_split text
  obtain ⟨second, hsecond, hmiddle, hopening⟩ := afterKeyword?_split hkeyword
  obtain ⟨hrest, hword⟩ := identifier?_split hidentifier
  refine ⟨hword, ?_, first ++ second, hsecond.append first, ?_⟩
  · -- the text begins with a modifier or, where there is none, with the keyword
    rcases hfirst with rfl | ⟨-, hopens⟩
    · rw [List.nil_append] at htext
      rwa [htext]
    · exact hopens
  · rw [List.append_assoc, ← hrest, ← hmiddle]
    exact htext

/-- No character of a word follows a heading. -/
theorem head_after_heading {text : List Char} {heading : Heading}
    (h : heading? text = some heading) : ∀ c ∈ heading.after.head?, isIdentifierChar c = false := by
  rw [heading?_eq_declared] at h
  obtain ⟨rest, -, hidentifier⟩ := declared?_parts h
  exact head_after_identifier hidentifier

theorem length_declared {text : List Char} {heading : Heading} (h : declared? text = some heading) :
    heading.identifier.length + heading.after.length < text.length := by
  obtain ⟨-, -, front, hfront, rfl⟩ := declared?_split h
  have hpos := List.length_pos_iff.mpr hfront.ne_nil
  rw [List.length_append, List.length_append]
  omega

/-- What opens a heading is not passed over as a blank. -/
theorem IsOpening.dropWhile {text : List Char} (h : IsOpening text) :
    text.dropWhile isBlank = text := by
  obtain ⟨c, rest, rfl, hc⟩ := h
  have hblank : isBlank c = false := isBlank_of_isNameChar (isNameChar_of_isNameStart hc)
  rw [List.dropWhile_cons, hblank]
  rfl

theorem IsWord.isOpening_append {word : List Char} (h : IsWord word) (text : List Char) :
    IsOpening (word ++ text) := by
  obtain ⟨c, rest, rfl, hc, -⟩ := h
  exact ⟨c, rest ++ text, rfl, hc⟩

/-- Blanks before a heading are spaces and tabs, so it does not matter which blanks are dropped. -/
theorem dropWhile_of_heading {text : List Char} {heading : Heading}
    (h : heading? text = some heading) :
    text.dropWhile isBlank = text.dropWhile isSpaceOrTab := by
  rw [heading?_eq_declared] at h
  obtain ⟨-, hopening, -⟩ := declared?_split h
  have hsplit := List.takeWhile_append_dropWhile (p := isSpaceOrTab) (l := text)
  have hblanks : ∀ c ∈ text.takeWhile isSpaceOrTab, isBlank c = true :=
    fun c hc => isBlank_of_isSpaceOrTab (List.mem_takeWhile_imp hc)
  calc text.dropWhile isBlank
      = (text.takeWhile isSpaceOrTab ++ text.dropWhile isSpaceOrTab).dropWhile isBlank := by
        rw [hsplit]
    _ = (text.dropWhile isSpaceOrTab).dropWhile isBlank := List.dropWhile_append_of_pos hblanks
    _ = text.dropWhile isSpaceOrTab := hopening.dropWhile

/-! ## Junctions -/

/-- If a heading begins a text, and another text goes on with a heading that a piece before it
begins, then the first text goes on with such a heading too. -/
theorem heading?_junction {piece text other : List Char} {heading crossing : Heading}
    (hpiece : EndsOutside piece) (htext : heading? text = some heading)
    (hother : heading? (piece ++ other) = some crossing) :
    ∃ found, heading? (piece ++ text) = some found := by
  obtain ⟨phase, hphase⟩ := exists_phase hpiece
  have hblanks := dropWhile_of_heading htext
  have hdeclared : declared? (text.dropWhile isBlank) = some heading := by
    rw [hblanks, ← heading?_eq_declared, htext]
  rw [hphase] at hother ⊢
  cases phase with
  | start => exact ⟨heading, htext⟩
  | modifiers => exact ⟨heading, hdeclared⟩
  | keyword word =>
    -- the first word of the heading is read as an identifier
    obtain ⟨c, rest, hrest, hc⟩ := (declared?_split hdeclared).2.1
    refine ⟨{ keyword := word, identifier := c :: rest.takeWhile isIdentifierChar,
              after := rest.dropWhile isIdentifierChar }, ?_⟩
    rw [Phase.heading?, hrest, identifier?, if_pos hc]
    rfl
  | done read => exact ⟨_, rfl⟩
  | failed => cases hother

/-- A heading stays the same if what follows it is replaced by what does not go on with its
identifier. -/
theorem heading?_replace {text : List Char} {heading : Heading} (h : heading? text = some heading) :
    ∃ front, text = front ++ heading.after ∧
      (∃ last, front.getLast? = some last ∧ isIdentifierChar last = true) ∧
      ∀ rest, (∀ c ∈ rest.head?, isIdentifierChar c = false) →
        heading? (front ++ rest) = some { heading with after := rest } := by
  have hdeclared := h
  rw [heading?_eq_declared] at hdeclared
  obtain ⟨hword, -, front, hfront, hsplit⟩ := declared?_split hdeclared
  -- what has been read before the identifier, with the spaces and tabs at its start
  have htext : text = text.takeWhile isSpaceOrTab ++ front ++
      (heading.identifier ++ heading.after) := by
    rw [List.append_assoc, ← hsplit, List.takeWhile_append_dropWhile]
  generalize text.takeWhile isSpaceOrTab = margin at htext
  have hpiece : EndsOutside (margin ++ front) := hfront.append margin
  obtain ⟨phase, hphase⟩ := exists_phase hpiece
  have hfound : phase.heading? (heading.identifier ++ heading.after) = some heading := by
    rw [← hphase, ← htext, h]
  have hwordPos : 0 < heading.identifier.length := by
    obtain ⟨c, rest, hidentifier, -⟩ := hword
    rw [hidentifier]
    exact Nat.succ_pos _
  have hblanks := fun rest => (hword.isOpening_append rest).dropWhile
  -- in every phase but one more than the identifier would still have to be read, or less
  have hkeyword : phase = .keyword heading.keyword := by
    cases phase with
    | start =>
      rw [Phase.heading?] at hfound
      have hlength := length_declared hfound
      have hle := (List.dropWhile_suffix (l := heading.identifier ++ heading.after)
        isSpaceOrTab).length_le
      rw [List.length_append] at hle
      omega
    | modifiers =>
      rw [Phase.heading?, hblanks] at hfound
      have hlength := length_declared hfound
      rw [List.length_append] at hlength
      omega
    | keyword word =>
      rw [Phase.heading?] at hfound
      obtain ⟨parts, -, heq⟩ := Option.map_eq_some_iff.mp hfound
      rw [← heq]
    | done read =>
      have hafter := congrArg (fun found => (found.map fun g => g.after.length)) hfound
      simp only [Phase.heading?, Option.map_some, Option.some.injEq, List.length_append] at hafter
      omega
    | failed => cases hfound
  refine ⟨margin ++ front ++ heading.identifier, by rw [List.append_assoc]; exact htext, ?_, ?_⟩
  · obtain ⟨last, hlast, hchar⟩ := hword.getLast
    exact ⟨last, by rw [List.getLast?_append, hlast, Option.some_or], hchar⟩
  intro rest hrest
  rw [List.append_assoc, hphase, hkeyword, Phase.heading?, hblanks, identifier?_word hword hrest]
  rfl

end Ambient.Sweep
