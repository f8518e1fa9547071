/-
  Ambient.Proofs.Sweep.Phase

  How far a piece of text takes the reading of a heading. A piece that does not end inside a word
  decides by itself whether a heading can begin at its start and how much of it has been read; what
  follows the piece only completes it (`exists_phase`). So a heading depends neither on what stands
  after its identifier nor, where it reaches into what follows, on more than how that begins.
-/
import Ambient.Proofs.Sweep.Heading
import Mathlib.Data.List.TakeWhile

namespace Ambient.Sweep

open Text

/-! ## Pieces that end outside words -/

/-- Whether a piece of text has a last character, which is not inside a word. -/
def EndsOutside (piece : List Char) : Prop :=
  ∃ last, piece.getLast? = some last ∧ isIdentifierChar last = false

namespace EndsOutside

variable {piece : List Char}

theorem ne_nil (h : EndsOutside piece) : piece ≠ [] := by
  rintro rfl
  obtain ⟨last, hlast, -⟩ := h
  cases hlast

theorem concat {last : Char} (h : isIdentifierChar last = false) (front : List Char) :
    EndsOutside (front ++ [last]) :=
  ⟨last, by simp, h⟩

theorem append (h : EndsOutside piece) (front : List Char) : EndsOutside (front ++ piece) := by
  obtain ⟨last, hlast, hchar⟩ := h
  exact ⟨last, by rw [List.getLast?_append, hlast, Option.some_or], hchar⟩

/-- What is left of the piece ends where the piece does. -/
theorem of_suffix (h : EndsOutside piece) {rest : List Char} (hsuffix : rest <:+ piece)
    (hne : rest ≠ []) : EndsOutside rest := by
  obtain ⟨last, hlast, hchar⟩ := h
  obtain ⟨front, rfl⟩ := hsuffix
  refine ⟨last, ?_, hchar⟩
  rw [List.getLast?_append, List.getLast?_eq_some_getLast hne, Option.some_or] at hlast
  rw [List.getLast?_eq_some_getLast hne, hlast]

theorem eq_nil_or_of_suffix (h : EndsOutside piece) {rest : List Char} (hsuffix : rest <:+ piece) :
    rest = [] ∨ EndsOutside rest := by
  by_cases hnil : rest = []
  · exact .inl hnil
  · exact .inr (h.of_suffix hsuffix hnil)

/-- A character of a word is not the last one. -/
theorem tail {c : Char} {rest : List Char} (h : EndsOutside (c :: rest))
    (hc : isIdentifierChar c = true) : EndsOutside rest := by
  refine h.of_suffix (List.suffix_cons c rest) ?_
  rintro rfl
  obtain ⟨last, hlast, hchar⟩ := h
  obtain rfl : c = last := by simpa using hlast
  rw [hc] at hchar
  cases hchar

end EndsOutside

/-- Blanks at the start of a piece are passed over up to the end of the piece and beyond it, or up to
a place inside it. -/
theorem dropWhile_piece (p : Char → Bool) {piece : List Char}
    (h : piece = [] ∨ EndsOutside piece) :
    (∀ text, (piece ++ text).dropWhile p = text.dropWhile p) ∨
      ∃ rest, EndsOutside rest ∧ rest <:+ piece ∧
        ∀ text, (piece ++ text).dropWhile p = rest ++ text := by
  by_cases hall : piece.dropWhile p = []
  · refine .inl fun text => ?_
    rw [List.dropWhile_append, hall]
    rfl
  · have hsuffix : piece.dropWhile p <:+ piece := List.dropWhile_suffix p
    refine .inr ⟨piece.dropWhile p, ?_, hsuffix, fun text => ?_⟩
    · rcases h with rfl | h
      · exact absurd rfl hall
      · exact h.of_suffix hsuffix hall
    · rw [List.dropWhile_append, if_neg (by simpa using hall)]

/-! ## Words -/

/-- The first of some words that a text begins with, as what it stands for, and what follows it. -/
def afterAny? {κ : Type} (words : List (String × κ)) (text : List Char) :
    Option (κ × List Char) :=
  words.findSome? fun (word, meaning) => (afterWord? word text).map (meaning, ·)

theorem afterAny?_cons {κ : Type} (word : String) (meaning : κ) (words : List (String × κ))
    (text : List Char) : afterAny? ((word, meaning) :: words) text =
      ((afterWord? word text).map (meaning, ·)).or (afterAny? words text) := by
  rw [afterAny?, List.findSome?_cons]
  dsimp only
  cases afterWord? word text <;> rfl

/-- The modifiers. -/
def modifierWords : List (String × Unit) :=
  [("export", ()), ("declare", ())]

/-- The keywords, each as it is written. -/
def keywordWords : List (String × Keyword) :=
  [("interface", .interface), ("enum", .enum), ("class", .classType), ("type", .type)]

theorem afterModifier?_eq (text : List Char) :
    afterModifier? text = (afterAny? modifierWords text).map (·.2) := by
  unfold afterModifier? afterAny? modifierWords
  simp only [List.findSome?]
  cases afterWord? "export" text <;> cases afterWord? "declare" text <;> rfl

theorem afterKeyword?_eq (text : List Char) :
    afterKeyword? text = afterAny? keywordWords text := by
  unfold afterKeyword? afterAny? keywordWords
  simp only [List.findSome?]
  cases afterWord? "interface" text <;> cases afterWord? "enum" text <;>
    cases afterWord? "class" text <;> cases afterWord? "type" text <;> rfl

section Words

variable {piece : List Char} (hpiece : EndsOutside piece)

include hpiece

theorem afterPrefix?_piece {pattern : List Char}
    (hpattern : ∀ c ∈ pattern, isIdentifierChar c = true) :
    (∀ text, afterPrefix? pattern (piece ++ text) = none) ∨
      ∃ rest, EndsOutside rest ∧ rest <:+ piece ∧
        ∀ text, afterPrefix? pattern (piece ++ text) = some (rest ++ text) := by
  -- along the pattern; the piece cannot end before it does, for its last character is in no word
  induction pattern generalizing piece with
  | nil => exact .inr ⟨piece, hpiece, List.suffix_refl _, fun text => afterPrefix?_nil _⟩
  | cons a pattern ih =>
    cases piece with
    | nil => exact absurd rfl hpiece.ne_nil
    | cons b more =>
      by_cases hab : a = b
      · subst hab
        have hmore := hpiece.tail (hpattern a (by simp))
        have hstep : ∀ text, afterPrefix? (a :: pattern) (a :: more ++ text) =
            afterPrefix? pattern (more ++ text) := by
          intro text
          rw [List.cons_append, afterPrefix?_cons, if_pos rfl]
        rcases ih hmore fun c hc => hpattern c (by simp [hc]) with hnone | ⟨rest, hrest, hsuffix, hsome⟩
        · exact .inl fun text => (hstep text).trans (hnone text)
        · exact .inr ⟨rest, hrest, hsuffix.trans (List.suffix_cons a more),
            fun text => (hstep text).trans (hsome text)⟩
      · refine .inl fun text => ?_
        rw [List.cons_append, afterPrefix?_cons, if_neg hab]

/-- A word is found or missed inside the piece, but for the blanks after it. -/
theorem afterWord?_piece (word : String) (hword : word.toList.all isIdentifierChar = true) :
    (∀ text, afterWord? word (piece ++ text) = none) ∨
      ∃ rest, rest <:+ piece ∧ rest.length < piece.length ∧
        ∀ text, afterWord? word (piece ++ text) = some ((rest ++ text).dropWhile isBlank) := by
  rcases afterPrefix?_piece hpiece (List.all_eq_true.mp hword) with
    hnone | ⟨rest, hrest, hsuffix, hsome⟩
  · refine .inl fun text => ?_
    rw [afterWord?, hnone]
  · cases rest with
    | nil => exact absurd rfl hrest.ne_nil
    | cons c more =>
      have hstep : ∀ text, afterWord? word (piece ++ text) =
          if isBlank c then some ((more ++ text).dropWhile isBlank) else none := by
        intro text
        rw [afterWord?, hsome]
        rfl
      -- what follows the letters is in the piece already, so it decides
      cases hblank : isBlank c with
      | true =>
        refine .inr ⟨more, (List.suffix_cons c more).trans hsuffix, hsuffix.length_le, ?_⟩
        intro text
        rw [hstep, hblank, if_pos rfl]
      | false =>
        refine .inl fun text => ?_
        rw [hstep, hblank]
        rfl

/-- So is the first of some words. -/
theorem afterAny?_piece {κ : Type} {words : List (String × κ)}
    (hwords : words.all (·.1.toList.all isIdentifierChar) = true) :
    (∀ text, afterAny? words (piece ++ text) = none) ∨
      ∃ meaning rest, rest <:+ piece ∧ rest.length < piece.length ∧
        ∀ text, afterAny? words (piece ++ text) =
          some (meaning, (rest ++ text).dropWhile isBlank) := by
  induction words with
  | nil => exact .inl fun _ => rfl
  | cons entry words ih =>
    obtain ⟨word, meaning⟩ := entry
    rw [List.all_cons, Bool.and_eq_true] at hwords
    rcases afterWord?_piece hpiece word hwords.1 with hnone | ⟨rest, hsuffix, hlength, hsome⟩
    · rcases ih hwords.2 with hothers | ⟨other, rest, hsuffix, hlength, hother⟩
      · exact .inl fun text => by rw [afterAny?_cons, hnone, hothers]; rfl
      · exact .inr ⟨other, rest, hsuffix, hlength, fun text => by
          rw [afterAny?_cons, hnone, hother]; rfl⟩
    · exact .inr ⟨meaning, rest, hsuffix, hlength, fun text => by
        rw [afterAny?_cons, hsome]; rfl⟩

/-- The modifiers end inside the piece or take all of it. -/
theorem afterModifiers_piece :
    (∀ text, afterModifiers (piece ++ text) = afterModifiers (text.dropWhile isBlank)) ∨
      ∃ rest, EndsOutside rest ∧
        ∀ text, afterModifiers (piece ++ text) = rest ++ text := by
  -- one modifier after the other, and each leaves less of the piece
  induction hlength : piece.length using Nat.strongRecOn generalizing piece with
  | ind n ih =>
    subst hlength
    have hmodifier : ∀ text, afterModifier? (piece ++ text) =
        (afterAny? modifierWords (piece ++ text)).map (·.2) :=
      fun text => afterModifier?_eq (piece ++ text)
    have hwords : modifierWords.all (·.1.toList.all isIdentifierChar) = true := by decide
    rcases afterAny?_piece hpiece hwords with hnone | ⟨_, rest, hsuffix, hlt, hsome⟩
    · refine .inr ⟨piece, hpiece, fun text => ?_⟩
      exact afterModifiers_of_none (by rw [hmodifier, hnone]; rfl)
    · have hstep : ∀ text, afterModifiers (piece ++ text) =
          afterModifiers ((rest ++ text).dropWhile isBlank) :=
        fun text => afterModifiers_of_some (by rw [hmodifier, hsome]; rfl)
      have hrest := hpiece.eq_nil_or_of_suffix hsuffix
      rcases dropWhile_piece isBlank hrest with hall | ⟨more, hmore, hmoreSuffix, hdrop⟩
      · exact .inl fun text => by rw [hstep, hall]
      · have hshorter : more.length < piece.length :=
          Nat.lt_of_le_of_lt hmoreSuffix.length_le hlt
        rcases ih more.length hshorter hmore rfl with hend | ⟨left, hleft, hinside⟩
        · exact .inl fun text => by rw [hstep, hdrop, hend]
        · exact .inr ⟨left, hleft, fun text => by rw [hstep, hdrop, hinside]⟩

/-- An identifier at the start of the piece ends inside it. -/
theorem identifier?_piece :
    (∀ text, identifier? (piece ++ text) = none) ∨
      ∃ identifier rest, ∀ text,
        identifier? (piece ++ text) = some (identifier, rest ++ text) := by
  cases piece with
  | nil => exact absurd rfl hpiece.ne_nil
  | cons c more =>
    cases hstart : isIdentifierStart c with
    | false =>
      refine .inl fun text => ?_
      rw [List.cons_append, identifier?, hstart]
      rfl
    | true =>
      have hmore := hpiece.tail (isIdentifierChar_of_isNameChar (isNameChar_of_isNameStart hstart))
      obtain ⟨last, hlast, hchar⟩ := hmore
      -- the last character of the piece is one at which the identifier ends
      have hdrop : more.dropWhile isIdentifierChar ≠ [] := by
        intro hnil
        have hall := List.dropWhile_eq_nil_iff.mp hnil last (List.mem_of_getLast? hlast)
        rw [hchar] at hall
        cases hall
      have htake : (more.takeWhile isIdentifierChar).length ≠ more.length := by
        intro hlength
        have hsplit := congrArg List.length
          (List.takeWhile_append_dropWhile (p := isIdentifierChar) (l := more))
        rw [List.length_append] at hsplit
        exact hdrop (List.length_eq_zero_iff.mp (by omega))
      refine .inr ⟨c :: more.takeWhile isIdentifierChar, more.dropWhile isIdentifierChar,
        fun text => ?_⟩
      rw [List.cons_append, identifier?, if_pos hstart, List.takeWhile_append, if_neg htake,
        List.dropWhile_append, if_neg (by simpa using hdrop)]

end Words

/-! ## Phases -/

/-- The heading that modifiers, a keyword and an identifier at the start of a text make. -/
def declared? (text : List Char) : Option Heading := do
  let (keyword, rest) ← afterKeyword? (afterModifiers text)
  let (identifier, after) ← identifier? rest
  some { keyword, identifier, after }

theorem heading?_eq_declared (text : List Char) :
    heading? text = declared? (text.dropWhile isSpaceOrTab) := rfl

/-- How far a piece of text has taken the reading of a heading. -/
inductive Phase where
  /-- The piece holds nothing but spaces and tabs. -/
  | start
  /-- The piece ends with the blanks after a modifier. -/
  | modifiers
  /-- The piece ends with the blanks after a keyword. -/
  | keyword (keyword : Keyword)
  /-- The heading has been read, and something of the piece is left. -/
  | done (heading : Heading)
  /-- No heading begins at the start of the piece. -/
  | failed

/-- The heading that a text completes. -/
def Phase.heading? : Phase → List Char → Option Heading
  | .start, text => Sweep.heading? text
  | .modifiers, text => declared? (text.dropWhile isBlank)
  | .keyword word, text =>
    (identifier? (text.dropWhile isBlank)).map fun (identifier, after) =>
      { keyword := word, identifier, after }
  | .done heading, text => some { heading with after := heading.after ++ text }
  | .failed, _ => none

theorem exists_phase_declared {piece : List Char} (h : EndsOutside piece) :
    ∃ phase : Phase, ∀ text, declared? (piece ++ text) = phase.heading? text := by
  -- the modifiers take the whole piece, or the keyword is sought in what they leave of it
  rcases afterModifiers_piece h with hall | ⟨rest, hrest, hmodifiers⟩
  · refine ⟨.modifiers, fun text => ?_⟩
    rw [Phase.heading?, declared?, declared?, hall]
  · have hwords : keywordWords.all (·.1.toList.all isIdentifierChar) = true := by decide
    rcases afterAny?_piece hrest hwords with hnone | ⟨keyword, more, hsuffix, -, hkeyword⟩
    · refine ⟨.failed, fun text => ?_⟩
      rw [declared?, hmodifiers, afterKeyword?_eq, hnone]
      rfl
    · have hmore := hrest.eq_nil_or_of_suffix hsuffix
      -- the same for the identifier after the keyword
      rcases dropWhile_piece isBlank hmore with hall | ⟨left, hleft, -, hdrop⟩
      · refine ⟨.keyword keyword, fun text => ?_⟩
        rw [declared?, hmodifiers, afterKeyword?_eq, hkeyword, hall, Phase.heading?]
        simp only [Option.bind_eq_bind, Option.bind_some]
        cases identifier? (text.dropWhile isBlank) <;> rfl
      · rcases identifier?_piece hleft with hnone | ⟨identifier, after, hidentifier⟩
        · refine ⟨.failed, fun text => ?_⟩
          rw [declared?, hmodifiers, afterKeyword?_eq, hkeyword, hdrop]
          simp only [Option.bind_eq_bind, Option.bind_some, hnone, Option.bind_none]
          rfl
        · refine ⟨.done { keyword, identifier, after }, fun text => ?_⟩
          rw [declared?, hmodifiers, afterKeyword?_eq, hkeyword, hdrop]
          simp only [Option.bind_eq_bind, Option.bind_some, hidentifier]
          rfl

/-- A piece that does not end inside a word takes the reading of a heading to one phase, whatever
follows the piece. -/
theorem exists_phase {piece : List Char} (h : EndsOutside piece) :
    ∃ phase : Phase, ∀ text, heading? (piece ++ text) = phase.heading? text := by
  rcases dropWhile_piece isSpaceOrTab (.inr h) with hall | ⟨rest, hrest, -, hdrop⟩
  · refine ⟨.start, fun text => ?_⟩
    rw [heading?_eq_declared, hall, ← heading?_eq_declared, Phase.heading?]
  · obtain ⟨phase, hphase⟩ := exists_phase_declared hrest
    refine ⟨phase, fun text => ?_⟩
    rw [heading?_eq_declared, hdrop, hphase]

end Ambient.Sweep
