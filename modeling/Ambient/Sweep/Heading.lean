/-
  Ambient.Sweep.Heading

  How a declaration begins in a text: blanks, modifiers, a keyword and an identifier. It can begin
  at the start of a line and after a semicolon or a brace.
-/
import Ambient.Text.Character
import Ambient.Text.Split

namespace Ambient.Sweep

/-! ## Words -/

/-- What follows a word and the blanks after it, of which there is at least one. -/
def afterWord? (word : String) (text : List Char) : Option (List Char) :=
  match Text.afterPrefix? word.toList text with
  | some (c :: rest) => if Text.isBlank c then some (rest.dropWhile Text.isBlank) else none
  | _ => none

theorem afterPrefix?_suffix {pattern text after : List Char}
    (h : Text.afterPrefix? pattern text = some after) : after <:+ text := by
  unfold Text.afterPrefix? at h
  split at h
  · cases h
    exact List.drop_suffix _ _
  · simp at h

/-- What follows a word is a proper part of the text. -/
theorem length_afterWord {word : String} {text after : List Char}
    (h : afterWord? word text = some after) : after.length < text.length := by
  unfold afterWord? at h
  split at h
  · rename_i c rest hp
    split at h
    · cases h
      have h1 := (afterPrefix?_suffix hp).length_le
      have h2 := (List.dropWhile_suffix (l := rest) Text.isBlank).length_le
      simp at h1
      omega
    · simp at h
  · simp at h

/-- What follows a modifier. -/
def afterModifier? (text : List Char) : Option (List Char) :=
  (afterWord? "export" text).orElse fun _ => afterWord? "declare" text

theorem length_afterModifier {text after : List Char}
    (h : afterModifier? text = some after) : after.length < text.length := by
  unfold afterModifier? at h
  cases he : afterWord? "export" text with
  | some a =>
    simp [he] at h
    exact h ▸ length_afterWord he
  | none =>
    simp [he] at h
    exact length_afterWord h

/-- What follows the modifiers at the start of a text. -/
def afterModifiers (text : List Char) : List Char :=
  match h : afterModifier? text with
  | some rest =>
    have := length_afterModifier h
    afterModifiers rest
  | none => text
termination_by text.length

/-! ## Headings -/

/-- The keywords that begin a declaration. -/
inductive Keyword where
  | interface | enum | classType | type
  deriving DecidableEq, Repr

/-- What follows a keyword, with the keyword. -/
def afterKeyword? (text : List Char) : Option (Keyword × List Char) :=
  match afterWord? "interface" text with
  | some rest => some (.interface, rest)
  | none =>
    match afterWord? "enum" text with
    | some rest => some (.enum, rest)
    | none =>
      match afterWord? "class" text with
      | some rest => some (.classType, rest)
      | none => (afterWord? "type" text).map (.type, ·)

/-- A character that can begin an identifier. -/
def isIdentifierStart (c : Char) : Bool :=
  Text.isAsciiLetter c || c == '_' || c == '$'

/-- A character that an identifier can go on with. -/
def isIdentifierChar (c : Char) : Bool :=
  Text.isWordChar c || c == '$'

/-- The beginning of a declaration, and the text after its identifier. -/
structure Heading where
  keyword : Keyword
  identifier : List Char
  after : List Char
  deriving DecidableEq, Repr

/-- The identifier at the start of a text, and what follows it. -/
def identifier? (text : List Char) : Option (List Char × List Char) :=
  match text with
  | c :: rest =>
    if isIdentifierStart c then
      some (c :: rest.takeWhile isIdentifierChar, rest.dropWhile isIdentifierChar)
    else none
  | [] => none

/-- The heading of the declaration that begins at the start of a text. -/
def heading? (text : List Char) : Option Heading := do
  let (keyword, rest) ← afterKeyword? (afterModifiers (text.dropWhile Text.isSpaceOrTab))
  let (identifier, after) ← identifier? rest
  some { keyword, identifier, after }

/-- Whether a declaration can begin right after a character. -/
def isAnchor (c : Char) : Bool :=
  c == '\n' || c == ';' || c == '\x7b' || c == '\x7d'

/-! ## Lengths -/

theorem length_afterModifiers_le (text : List Char) :
    (afterModifiers text).length ≤ text.length := by
  fun_induction afterModifiers text with
  | case1 text rest h hlt ih => omega
  | case2 => exact Nat.le_refl _

theorem length_afterKeyword {text after : List Char} {keyword : Keyword}
    (h : afterKeyword? text = some (keyword, after)) : after.length < text.length := by
  unfold afterKeyword? at h
  split at h
  · rename_i rest hw
    cases h
    exact length_afterWord hw
  · split at h
    · rename_i rest hw
      cases h
      exact length_afterWord hw
    · split at h
      · rename_i rest hw
        cases h
        exact length_afterWord hw
      · obtain ⟨rest, hw, he⟩ := Option.map_eq_some_iff.1 h
        cases he
        exact length_afterWord hw

theorem length_after_identifier {text identifier after : List Char}
    (h : identifier? text = some (identifier, after)) : after.length < text.length := by
  unfold identifier? at h
  split at h
  · rename_i c rest
    split at h
    · cases h
      have := (List.dropWhile_suffix (l := rest) isIdentifierChar).length_le
      simp
      omega
    · simp at h
  · simp at h

/-- The text after a heading is shorter than the text from its start. -/
theorem length_after_heading {text : List Char} {heading : Heading}
    (h : heading? text = some heading) : heading.after.length < text.length := by
  unfold heading? at h
  obtain ⟨⟨keyword, rest⟩, hk, h⟩ := Option.bind_eq_some_iff.1 h
  obtain ⟨⟨identifier, after⟩, hi, h⟩ := Option.bind_eq_some_iff.1 h
  cases h
  have h1 := length_afterKeyword hk
  have h2 := length_after_identifier hi
  have h3 := length_afterModifiers_le (text.dropWhile Text.isSpaceOrTab)
  have h4 := (List.dropWhile_suffix (l := text) Text.isSpaceOrTab).length_le
  simp only
  omega

end Ambient.Sweep
