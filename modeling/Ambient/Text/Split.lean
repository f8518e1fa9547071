/-
  Ambient.Text.Split

  Cutting a text at a character, putting pieces together again, and finding one text in another.
-/

namespace Ambient.Text

/-- The pieces of a text between the occurrences of a separator; there is always one. -/
def splitOn (sep : Char) : List Char → List (List Char)
  | [] => [[]]
  | c :: rest =>
    if c == sep then [] :: splitOn sep rest
    else match splitOn sep rest with
      | [] => [[c]]
      | piece :: pieces => (c :: piece) :: pieces

/-- The pieces in a row with a separator between each two. -/
def joinWith (sep : List Char) : List (List Char) → List Char
  | [] => []
  | [piece] => piece
  | piece :: pieces => piece ++ sep ++ joinWith sep pieces

/-- Whether `pattern` occurs somewhere in `text`. -/
def occursIn (pattern : List Char) : List Char → Bool
  | [] => pattern.isEmpty
  | c :: rest => pattern.isPrefixOf (c :: rest) || occursIn pattern rest

/-- What follows the last occurrence of a character, or the whole text where there is none. -/
def afterLast (sep : Char) (text : List Char) : List Char :=
  (splitOn sep text).getLast?.getD text

/-- What follows `pattern` at the start of a text. -/
def afterPrefix? (pattern text : List Char) : Option (List Char) :=
  if pattern.isPrefixOf text then some (text.drop pattern.length) else none

theorem splitOn_ne_nil (sep : Char) (text : List Char) : splitOn sep text ≠ [] := by
  induction text with
  | nil => simp [splitOn]
  | cons c rest ih =>
    unfold splitOn
    split
    · simp
    · split <;> simp

/-- Joining what was cut gives the text back. -/
theorem joinWith_splitOn (sep : Char) (text : List Char) :
    joinWith [sep] (splitOn sep text) = text := by
  induction text with
  | nil => rfl
  | cons c rest ih =>
    have hne := splitOn_ne_nil sep rest
    by_cases hc : c = sep
    · subst hc
      cases h : splitOn c rest with
      | nil => exact absurd h hne
      | cons piece pieces => simp [splitOn, h, joinWith, h ▸ ih]
    · cases h : splitOn sep rest with
      | nil => exact absurd h hne
      | cons piece pieces =>
        have hcat : joinWith [sep] ((c :: piece) :: pieces) =
            c :: joinWith [sep] (piece :: pieces) := by
          cases pieces <;> simp [joinWith]
        simp [splitOn, hc, h, hcat, h ▸ ih]

end Ambient.Text

namespace String

/-- The strings in a row with a separator between each two. -/
def joinWith (sep : String) : List String → String
  | [] => ""
  | [piece] => piece
  | piece :: pieces => piece ++ sep ++ joinWith sep pieces

end String
