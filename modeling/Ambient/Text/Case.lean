/-
  Ambient.Text.Case

  Lower case and capitals for all of Unicode. A capital sigma has two lower-case forms, and which
  one is taken depends on the letters around it.
-/
import Ambient.Text.Character

namespace Ambient.Text

/-- The code point that a list of case ranges assigns to `n`, if it has an entry. -/
def caseOffset? (ranges : List CaseRange) (n : Nat) : Option Nat :=
  (ranges.find? fun r => r.first ≤ n && n ≤ r.last && (n - r.first) % r.step == 0).map
    fun r => (Int.ofNat n + r.offset).toNat

/-- The lower-case form of a character whose neighbours do not matter. -/
def lowerChar (c : Char) : List Char :=
  if c.toNat < 128 then
    [if isAsciiUpper c then Char.ofNat (c.toNat + 32) else c]
  else if c.toNat == 0x130 then ['i', Char.ofNat 0x307]
  else [((caseOffset? lowerRanges c.toNat).map Char.ofNat).getD c]

/-- The title-case form of a character. -/
def titleChar (c : Char) : List Char :=
  if c.toNat < 128 then
    [if isAsciiLower c then Char.ofNat (c.toNat - 32) else c]
  else match titleExpansions.lookup c.toNat with
    | some expansion => expansion.map Char.ofNat
    | none => [((caseOffset? titleRanges c.toNat).map Char.ofNat).getD c]

/-- Whether the nearest character that is not skipped has letter case. -/
def nextIsCased (text : List Char) : Bool :=
  match text.dropWhile isSkipped with
  | [] => false
  | c :: _ => isCased c

/-- The lower-case form of a capital sigma: the final one after a letter that ends its word. -/
def lowerSigma (before after : List Char) : Char :=
  if nextIsCased before && !nextIsCased after then 'ς' else 'σ'

/-- Lower case of a text that follows the characters `before`, the nearest of them first. -/
def lowerAfter (before : List Char) : List Char → List Char
  | [] => []
  | c :: rest =>
    (if c == 'Σ' then [lowerSigma before rest] else lowerChar c) ++ lowerAfter (c :: before) rest

/-- The lower-case form of a text. -/
def lower (text : List Char) : List Char :=
  lowerAfter [] text

/-- The text with its first character in title case and all others in lower case. -/
def capitalize : List Char → List Char
  | [] => []
  | c :: rest => titleChar c ++ lowerAfter [c] rest

end Ambient.Text

/-- The lower-case form of a string. -/
def String.lowered (s : String) : String :=
  String.ofList (Ambient.Text.lower s.toList)
