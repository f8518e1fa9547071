/-
  Ambient.Sweep.Finish

  The final form of a text of declarations. Hidden declarations go, and with them the namespaces
  that hold nothing; then blanks at the ends of lines, line breaks beyond two in a row, and blanks
  at both ends of the text.
-/
import Ambient.Sweep.Removal

namespace Ambient.Sweep

/-! ## Empty namespaces -/

/-- A character of a dotted name. -/
def isDottedChar (c : Char) : Bool :=
  isIdentifierChar c || c == '.'

/-- What follows a character and the blanks before it. -/
def afterSign? (sign : Char) (text : List Char) : Option (List Char) :=
  match text.dropWhile Text.isBlank with
  | c :: rest => if c == sign then some rest else none
  | [] => none

/-- What follows the empty namespace that begins at the start of a line. -/
def afterEmptyNamespace? (text : List Char) : Option (List Char) := do
  let text ← afterWord? "declare" (text.dropWhile Text.isSpaceOrTab)
  let text ← afterWord? "namespace" text
  if (text.takeWhile isDottedChar).isEmpty then none
  else
    let text ← afterSign? '\x7b' (text.dropWhile isDottedChar)
    let text ← afterSign? '\x7d' text
    some (text.dropWhile Text.isSpaceOrTab)

theorem length_afterSign {sign : Char} {text after : List Char}
    (h : afterSign? sign text = some after) : after.length < text.length := by
  unfold afterSign? at h
  have hle := (List.dropWhile_suffix (l := text) Text.isBlank).length_le
  split at h
  · rename_i c rest heq
    split at h
    · cases h
      rw [heq] at hle
      simp at hle
      omega
    · simp at h
  · simp at h

/-- What follows an empty namespace is shorter than the text from its start. -/
theorem length_afterEmptyNamespace {text after : List Char}
    (h : afterEmptyNamespace? text = some after) : after.length < text.length := by
  unfold afterEmptyNamespace? at h
  obtain ⟨t1, h1, h⟩ := Option.bind_eq_some_iff.1 h
  obtain ⟨t2, h2, h⟩ := Option.bind_eq_some_iff.1 h
  split at h
  · simp at h
  · obtain ⟨t3, h3, h⟩ := Option.bind_eq_some_iff.1 h
    obtain ⟨t4, h4, h⟩ := Option.bind_eq_some_iff.1 h
    cases h
    have l0 := (List.dropWhile_suffix (l := text) Text.isSpaceOrTab).length_le
    have l1 := length_afterWord h1
    have l2 := length_afterWord h2
    have l3 := (List.dropWhile_suffix (l := t2) isDottedChar).length_le
    have l4 := length_afterSign h3
    have l5 := length_afterSign h4
    have l6 := (List.dropWhile_suffix (l := t4) Text.isSpaceOrTab).length_le
    omega

/-- What follows the empty namespace at the start of a text, if the text begins a line. -/
def afterEmptyNamespaceIf? (atLine : Bool) (text : List Char) : Option (List Char) :=
  if atLine then afterEmptyNamespace? text else none

theorem length_afterEmptyNamespaceIf {atLine : Bool} {text after : List Char}
    (h : afterEmptyNamespaceIf? atLine text = some after) : after.length < text.length := by
  unfold afterEmptyNamespaceIf? at h
  split at h
  · exact length_afterEmptyNamespace h
  · simp at h

/-- The text without a line break at its start. -/
def dropBreak : List Char → List Char
  | [] => []
  | c :: rest => if c == '\n' then rest else c :: rest

theorem length_dropBreak_le (text : List Char) : (dropBreak text).length ≤ text.length := by
  unfold dropBreak
  split
  · exact Nat.le_refl _
  · split <;> simp

/-- The text without its empty namespaces, each with the line break after it; `atLine` tells whether
the text begins a line. -/
def dropEmptyNamespaces (atLine : Bool) (text : List Char) : List Char :=
  match text with
  | [] => []
  | c :: rest =>
    match h : afterEmptyNamespaceIf? atLine (c :: rest) with
    | some after =>
      have : (dropBreak after).length < rest.length + 1 :=
        Nat.lt_of_le_of_lt (length_dropBreak_le after) (length_afterEmptyNamespaceIf h)
      dropEmptyNamespaces (after.head? == some '\n') (dropBreak after)
    | none => c :: dropEmptyNamespaces (c == '\n') rest
termination_by text.length

/-! ## Blanks -/

/-- The text without spaces and tabs at the ends of its lines. -/
def trimLines (text : List Char) : List Char :=
  Text.joinWith ['\n'] ((Text.splitOn '\n' text).map (Text.dropEndWhile Text.isSpaceOrTab))

/-- The text with at most two line breaks in a row, `count` of which stand before it. -/
def limitBreaks (count : Nat) : List Char → List Char
  | [] => []
  | c :: rest =>
    if c == '\n' then
      if count < 2 then c :: limitBreaks (count + 1) rest else limitBreaks count rest
    else c :: limitBreaks 0 rest

/-- The text with line feeds for pairs of carriage return and line feed. -/
def joinBreaks : List Char → List Char
  | [] => []
  | '\r' :: '\n' :: rest => '\n' :: joinBreaks rest
  | c :: rest => c :: joinBreaks rest

/-! ## Final form -/

/-- The text without what a marker hides; an empty marker hides nothing, and leaves empty namespaces
alone too. -/
def removeMarked (marker text : List Char) : List Char :=
  if marker.isEmpty then text else dropEmptyNamespaces true (removeHidden marker text)

/-- The final form of a text under a marker. -/
def finish (marker text : List Char) : List Char :=
  if Text.allBlank text then []
  else Text.trim (limitBreaks 0 (trimLines (removeMarked marker (joinBreaks text))))

/-- The final form of a string under a setting of the marker. -/
def finishWith (setting : Json) (code : String) : Except Fault String :=
  if code.isAllBlank then .ok ""
  else do
    let marker ← Visibility.markerOf setting
    .ok (String.ofList (finish marker.toList code.toList))

end Ambient.Sweep
