/-
  Ambient.Text.Edges

  Removal of blanks at the ends of a text.
-/
import Ambient.Text.Character

namespace Ambient.Text

/-- The text without the characters of a class at its end. -/
def dropEndWhile (p : Char → Bool) : List Char → List Char
  | [] => []
  | c :: rest =>
    match dropEndWhile p rest with
    | [] => if p c then [] else [c]
    | kept => c :: kept

/-- The text without blanks at its end. -/
def trimEnd (text : List Char) : List Char :=
  dropEndWhile isBlank text

/-- The text without blanks at either end. -/
def trim (text : List Char) : List Char :=
  trimEnd (text.dropWhile isBlank)

/-- Whether a text has no character but blanks. -/
def allBlank (text : List Char) : Bool :=
  text.all isBlank

/-- Nothing is left of a text at either end exactly when it is blank throughout. -/
theorem dropEndWhile_eq_nil_iff (p : Char → Bool) (text : List Char) :
    dropEndWhile p text = [] ↔ text.all p = true := by
  induction text with
  | nil => simp [dropEndWhile]
  | cons c rest ih =>
    cases h : dropEndWhile p rest with
    | nil => by_cases hc : p c <;> simp_all [dropEndWhile]
    | cons d kept => simp_all [dropEndWhile]

end Ambient.Text

/-- Whether a string has no character but blanks. -/
def String.isAllBlank (s : String) : Bool :=
  Ambient.Text.allBlank s.toList
