/-
  Ambient.Proofs.Sweep.Scan

  What a sweep leaves behind. The headings of a text are those that a scan from its start meets, each
  sought behind the identifier of the one before it. A sweep can also be seen as rounds that edit the
  text and go on at the cut; the rounds come to an end, and no hidden heading is left in the text
  (`removeHidden_leaves_none`).
-/
import Ambient.Proofs.Sweep.Junction
import Ambient.Proofs.Sweep.Removal

namespace Ambient.Sweep

open Text

variable {marker : List Char}

/-! ## The headings of a text -/

/-- The headings that a scan meets; `anchored` tells whether a declaration can begin at the start of
the text. -/
def headingsFrom (anchored : Bool) (text : List Char) : List Heading :=
  match text with
  | [] => []
  | c :: rest =>
    match h : headingIf? anchored (c :: rest) with
    | some heading =>
      have : heading.after.length < rest.length + 1 := length_after_headingIf h
      heading :: headingsFrom false heading.after
    | none => headingsFrom (isAnchor c) rest
termination_by text.length

/-- The headings that a scan from the start of a text meets. -/
def headings (text : List Char) : List Heading :=
  headingsFrom true text

theorem headingsFrom_of_none {anchored : Bool} {c : Char} {rest : List Char}
    (h : headingIf? anchored (c :: rest) = none) :
    headingsFrom anchored (c :: rest) = headingsFrom (isAnchor c) rest := by
  rw [headingsFrom]
  split
  · rename_i heq
    rw [h] at heq
    cases heq
  · rfl

theorem headingsFrom_of_some {anchored : Bool} {text : List Char} {heading : Heading}
    (h : headingIf? anchored text = some heading) :
    headingsFrom anchored text = heading :: headingsFrom false heading.after := by
  cases text with
  | nil => exact absurd (length_after_headingIf h) (Nat.not_lt_zero _)
  | cons c rest =>
    rw [headingsFrom]
    split
    · rename_i heq
      rw [h] at heq
      cases heq
      rfl
    · rename_i heq
      rw [h] at heq
      cases heq

theorem heading?_of_headingIf {anchored : Bool} {text : List Char} {heading : Heading}
    (h : headingIf? anchored text = some heading) :
    anchored = true ∧ heading? text = some heading := by
  unfold headingIf? at h
  split at h
  · rename_i hanchored
    exact ⟨hanchored, h⟩
  · cases h

/-! ## Anchors behind a piece -/

/-- Whether a declaration can begin behind a piece of text; `anchored` tells it for the start of the
piece. -/
def anchoredAfter (anchored : Bool) (piece : List Char) : Bool :=
  match piece.getLast? with
  | none => anchored
  | some last => isAnchor last

theorem anchoredAfter_cons (anchored : Bool) (c : Char) (piece : List Char) :
    anchoredAfter anchored (c :: piece) = anchoredAfter (isAnchor c) piece := by
  unfold anchoredAfter
  rw [List.getLast?_cons]
  cases piece.getLast? <;> rfl

theorem anchoredAfter_append (anchored : Bool) (first second : List Char) :
    anchoredAfter anchored (first ++ second) =
      anchoredAfter (anchoredAfter anchored first) second := by
  induction first generalizing anchored with
  | nil => rfl
  | cons c rest ih => rw [List.cons_append, anchoredAfter_cons, anchoredAfter_cons, ih]

theorem isIdentifierChar_of_isAnchor {c : Char} (h : isAnchor c = true) :
    isIdentifierChar c = false := by
  have hc : ((c = '\n' ∨ c = ';') ∨ c = '\x7b') ∨ c = '\x7d' := by simpa [isAnchor] using h
  rcases hc with ((rfl | rfl) | rfl) | rfl <;> decide

/-- A declaration can begin behind a piece only if the piece does not end inside a word. -/
theorem endsOutside_of_anchoredAfter {c : Char} {piece : List Char}
    (h : anchoredAfter (isAnchor c) piece = true) : EndsOutside (c :: piece) := by
  rw [← anchoredAfter_cons true] at h
  unfold anchoredAfter at h
  split at h
  · rename_i hnone
    cases List.getLast?_eq_none_iff.mp hnone
  · rename_i last hlast
    exact ⟨last, hlast, isIdentifierChar_of_isAnchor h⟩

/-- No declaration can begin right behind an identifier. -/
theorem anchoredAfter_of_word {anchored : Bool} {front : List Char}
    (h : ∃ last, front.getLast? = some last ∧ isIdentifierChar last = true) :
    anchoredAfter anchored front = false := by
  obtain ⟨last, hlast, hchar⟩ := h
  unfold anchoredAfter
  rw [hlast, ← Bool.not_eq_true]
  intro hanchor
  rw [isIdentifierChar_of_isAnchor hanchor] at hchar
  cases hchar

/-! ## Cuts -/

/-- What has been read of a text is the text without what is left. -/
theorem take_front {text front after : List Char} (h : text = front ++ after) :
    text.take (text.length - after.length) = front := by
  rw [h, List.length_append, Nat.add_sub_cancel, List.take_left]

/-- Behind a place where no declaration can begin, what is kept begins as the text does. -/
theorem head_removeFrom (text : List Char) :
    (removeFrom marker false text).head? = text.head? := by
  cases text with
  | nil => rw [removeFrom]
  | cons c rest =>
    rw [removeFrom_of_none rfl]
    rfl

/-- A text in which something is cut out is the same up to the first cut, and the first thing that
is cut out begins with a heading. -/
theorem removeFrom_cut (marker : List Char) (anchored : Bool) (text : List Char) :
    removeFrom marker anchored text = text ∨
      ∃ front tail rest heading, text = front ++ tail ∧ heading? tail = some heading ∧
        removeFrom marker anchored text = front ++ rest ∧ anchoredAfter anchored front = true := by
  fun_induction removeFrom marker anchored text with
  | case1 => exact .inl rfl
  | case2 anchored c rest heading hfound _ _ hhidden ih =>
    -- the cut is here
    obtain ⟨rfl, hheading⟩ := heading?_of_headingIf hfound
    exact .inr ⟨[], c :: rest, _, heading, rfl, hheading, rfl, rfl⟩
  | case3 anchored c rest heading hfound _ _ hvisible ih =>
    obtain ⟨rfl, hheading⟩ := heading?_of_headingIf hfound
    obtain ⟨front, htext, hword, -⟩ := heading?_replace hheading
    rw [take_front htext]
    rcases ih with hsame | ⟨piece, tail, left, next, hafter, hnext, hcut, hanchor⟩
    · exact .inl (by rw [hsame, ← htext])
    · refine .inr ⟨front ++ piece, tail, left, next, ?_, hnext, ?_, ?_⟩
      · rw [List.append_assoc, ← hafter, htext]
      · rw [List.append_assoc, hcut]
      · rwa [anchoredAfter_append, anchoredAfter_of_word hword]
  | case4 anchored c rest hnone ih =>
    rcases ih with hsame | ⟨front, tail, left, heading, hrest, hheading, hcut, hanchor⟩
    · exact .inl (by rw [hsame])
    · refine .inr ⟨c :: front, tail, left, heading, ?_, hheading, ?_, ?_⟩
      · rw [hrest, List.cons_append]
      · rw [hcut, List.cons_append]
      · rwa [anchoredAfter_cons]

/-- Where no heading begins, none begins after the cuts behind that place. -/
theorem headingIf?_removeFrom {anchored : Bool} {c : Char} {rest : List Char}
    (h : headingIf? anchored (c :: rest) = none) :
    headingIf? anchored (c :: removeFrom marker (isAnchor c) rest) = none := by
  cases anchored with
  | false => rfl
  | true =>
    have hnone : heading? (c :: rest) = none := h
    rcases removeFrom_cut marker (isAnchor c) rest with
      hsame | ⟨front, tail, left, heading, hrest, hheading, hcut, hanchor⟩
    · rwa [hsame]
    · show heading? (c :: removeFrom marker (isAnchor c) rest) = none
      rw [hcut, ← List.cons_append, Option.eq_none_iff_forall_not_mem]
      intro crossing hcrossing
      -- a heading that reaches over the cut would have reached into what was cut out
      obtain ⟨found, hfound⟩ :=
        heading?_junction (endsOutside_of_anchoredAfter hanchor) hheading hcrossing
      rw [List.cons_append, ← hrest, hnone] at hfound
      cases hfound

/-! ## What is left -/

/-- No hidden heading is met after a removal. -/
theorem headingsFrom_removeFrom (marker : List Char) (anchored : Bool) (text : List Char) :
    ∀ heading ∈ headingsFrom anchored (removeFrom marker anchored text),
      Visibility.holds marker heading.identifier = false := by
  fun_induction removeFrom marker anchored text with
  | case1 =>
    rw [headingsFrom]
    simp
  | case2 anchored c rest heading hfound _ _ hhidden ih => exact ih
  | case3 anchored c rest heading hfound _ _ hvisible ih =>
    obtain ⟨rfl, hheading⟩ := heading?_of_headingIf hfound
    obtain ⟨front, htext, -, hreplace⟩ := heading?_replace hheading
    -- a heading that stays is found again, for what follows it begins as before
    have hagain : headingIf? true (front ++ removeFrom marker false heading.after) =
        some { heading with after := removeFrom marker false heading.after } := by
      refine hreplace _ ?_
      rw [head_removeFrom]
      exact head_after_heading hheading
    rw [take_front htext, headingsFrom_of_some hagain]
    intro found hmem
    rcases List.mem_cons.mp hmem with rfl | hlater
    · simpa using hvisible
    · exact ih found hlater
  | case4 anchored c rest hnone ih =>
    rw [headingsFrom_of_none (headingIf?_removeFrom hnone)]
    exact ih

/-- Where no hidden heading is met, nothing is removed. -/
theorem removeFrom_of_headings {anchored : Bool} {text : List Char}
    (h : ∀ heading ∈ headingsFrom anchored text,
      Visibility.holds marker heading.identifier = false) :
    removeFrom marker anchored text = text := by
  fun_induction removeFrom marker anchored text with
  | case1 => rfl
  | case2 anchored c rest heading hfound _ _ hhidden ih =>
    rw [headingsFrom_of_some hfound] at h
    rw [h heading (by simp)] at hhidden
    cases hhidden
  | case3 anchored c rest heading hfound _ _ hvisible ih =>
    obtain ⟨rfl, hheading⟩ := heading?_of_headingIf hfound
    obtain ⟨front, htext, -⟩ := heading?_replace hheading
    rw [headingsFrom_of_some hfound] at h
    rw [take_front htext, ih fun found hmem => h found (by simp [hmem]), htext]
  | case4 anchored c rest hnone ih =>
    rw [headingsFrom_of_none hnone] at h
    rw [ih h]

/-! ## Rounds -/

/-- The next heading of a text, and the text before it. -/
def nextHeading? (anchored : Bool) : List Char → Option (List Char × Heading)
  | [] => none
  | c :: rest =>
    match headingIf? anchored (c :: rest) with
    | some heading => some ([], heading)
    | none => (nextHeading? (isAnchor c) rest).map fun (before, heading) => (c :: before, heading)

/-- A sweep under way: the text before the place at which reading goes on, and the text behind it. -/
structure Sweeping where
  before : List Char
  behind : List Char

namespace Sweeping

/-- The whole text as it stands. -/
def text (s : Sweeping) : List Char :=
  s.before ++ s.behind

/-- Whether a declaration can begin where reading goes on. -/
def isAnchored (s : Sweeping) : Bool :=
  anchoredAfter true s.before

/-- What a round makes of a sweep: the next heading is sought in the text as it stands. If it is
hidden its declaration is cut out and reading goes on at the cut, otherwise behind the heading. -/
def next? (marker : List Char) (s : Sweeping) : Option Sweeping :=
  (nextHeading? s.isAnchored s.behind).map fun (passed, heading) =>
    if Visibility.holds marker heading.identifier then
      { before := s.before ++ passed, behind := heading.rest }
    else
      { before := s.before ++ s.behind.take (s.behind.length - heading.after.length)
        behind := heading.after }

/-- Whether a sweep comes to an end with a text. -/
inductive EndsWith (marker : List Char) : Sweeping → List Char → Prop where
  | last {s : Sweeping} (h : s.next? marker = none) : EndsWith marker s s.text
  | round {s t : Sweeping} {result : List Char} (h : s.next? marker = some t)
      (ht : EndsWith marker t result) : EndsWith marker s result

end Sweeping

theorem removeFrom_of_next_none {anchored : Bool} {text : List Char}
    (h : nextHeading? anchored text = none) : removeFrom marker anchored text = text := by
  induction text generalizing anchored with
  | nil => rw [removeFrom]
  | cons c rest ih =>
    rw [nextHeading?] at h
    split at h
    · cases h
    · rename_i hnone
      rw [removeFrom_of_none hnone, ih (Option.map_eq_none_iff.mp h)]

/-- The text before the next heading is kept, and a declaration can begin behind it. -/
theorem removeFrom_of_next {anchored : Bool} {text passed : List Char} {heading : Heading}
    (h : nextHeading? anchored text = some (passed, heading)) :
    ∃ tail, text = passed ++ tail ∧ heading? tail = some heading ∧
      anchoredAfter anchored passed = true ∧
      removeFrom marker anchored text = passed ++ removeFrom marker true tail := by
  induction text generalizing anchored passed with
  | nil => cases h
  | cons c rest ih =>
    rw [nextHeading?] at h
    split at h
    · rename_i hfound
      cases h
      obtain ⟨rfl, hheading⟩ := heading?_of_headingIf hfound
      exact ⟨c :: rest, rfl, hheading, rfl, rfl⟩
    · rename_i hnone
      obtain ⟨⟨piece, next⟩, hnext, heq⟩ := Option.map_eq_some_iff.mp h
      cases heq
      obtain ⟨tail, hrest, hheading, hanchor, hremoved⟩ := ih hnext
      refine ⟨tail, by rw [hrest]; rfl, hheading, by rwa [anchoredAfter_cons], ?_⟩
      rw [removeFrom_of_none hnone, hremoved, List.cons_append]

namespace Sweeping

/-- A round leaves less to read, and what is made of the text stays the same. -/
theorem next?_step {s t : Sweeping} (h : s.next? marker = some t) :
    t.behind.length < s.behind.length ∧
      t.before ++ removeFrom marker t.isAnchored t.behind =
        s.before ++ removeFrom marker s.isAnchored s.behind := by
  obtain ⟨⟨passed, heading⟩, hnext, rfl⟩ := Option.map_eq_some_iff.mp h
  obtain ⟨tail, hbehind, hheading, hanchor, hremoved⟩ := removeFrom_of_next hnext
  have hafter := length_after_heading hheading
  have htail : tail.length ≤ s.behind.length := by
    rw [hbehind, List.length_append]
    omega
  have hanchored : anchoredAfter true (s.before ++ passed) = true := by
    rw [anchoredAfter_append]
    exact hanchor
  rw [hremoved, removeFrom_of_heading hheading]
  dsimp only
  split
  · -- cut out
    have hrest := length_rest_le heading
    refine ⟨by dsimp only; omega, ?_⟩
    rw [isAnchored, hanchored, List.append_assoc]
  · -- passed over
    obtain ⟨front, hsplit, hword, -⟩ := heading?_replace hheading
    have hwhole : s.behind = passed ++ front ++ heading.after := by
      rw [List.append_assoc, ← hsplit]
      exact hbehind
    refine ⟨by dsimp only; omega, ?_⟩
    rw [isAnchored, take_front hwhole, take_front hsplit, anchoredAfter_append,
      anchoredAfter_append, anchoredAfter_of_word hword, List.append_assoc, List.append_assoc]

/-- Every sweep comes to an end, with what is kept of the text behind it. -/
theorem endsWith_removeFrom (marker : List Char) (s : Sweeping) :
    EndsWith marker s (s.before ++ removeFrom marker s.isAnchored s.behind) := by
  induction hlength : s.behind.length using Nat.strongRecOn generalizing s with
  | ind n ih =>
    subst hlength
    cases hnext : s.next? marker with
    | none =>
      rw [removeFrom_of_next_none (Option.map_eq_none_iff.mp hnext)]
      exact .last hnext
    | some t =>
      obtain ⟨hless, hsame⟩ := next?_step hnext
      rw [← hsame]
      exact .round hnext (ih _ hless t rfl)

end Sweeping

/-! ## Sweeps -/

/-- A sweep of a text comes to an end, no heading that a scan of the result meets holds the marker,
a second sweep changes nothing, and neither does the first where no heading holds the marker. -/
theorem removeHidden_leaves_none (marker text : List Char) :
    Sweeping.EndsWith marker { before := [], behind := text } (removeHidden marker text) ∧
      (∀ heading ∈ headings (removeHidden marker text),
        occursIn (lower marker) (lower heading.identifier) = false) ∧
      removeHidden marker (removeHidden marker text) = removeHidden marker text ∧
      ((∀ heading ∈ headings text, occursIn (lower marker) (lower heading.identifier) = false) →
        removeHidden marker text = text) := by
  have hclean := headingsFrom_removeFrom marker true text
  refine ⟨Sweeping.endsWith_removeFrom marker { before := [], behind := text }, hclean, ?_, ?_⟩
  · exact removeFrom_of_headings hclean
  · exact removeFrom_of_headings

/-- A declaration spread over two lines goes, and one inside another goes up to the end of its line:
what closes up begins no other declaration. -/
theorem removeHidden_leaves_none_nested :
    let marker := "guid".toList
    let text := ("export enum\nUserGuid \x7b A \x7d\ninterface User \x7b\n" ++
      "  a: string;interface GuidBox \x7b x: \x7b\x7d \x7d\n\x7d\n").toList
    let result := "interface User \x7b\n  a: string;\x7d\n".toList
    removeHidden marker text = result ∧
      Sweeping.EndsWith marker { before := [], behind := text } result ∧
      (∀ heading ∈ headings result,
        occursIn (lower marker) (lower heading.identifier) = false) ∧
      removeHidden marker result = result := by
  intro marker text result
  have hresult : removeHidden marker text = result := by decide +kernel
  obtain ⟨hends, hclean, hagain, -⟩ := removeHidden_leaves_none marker text
  rw [hresult] at hends hclean hagain
  exact ⟨hresult, hends, hclean, hagain⟩

end Ambient.Sweep
