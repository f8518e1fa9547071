/-
  Ambient.Text.CharacterName

  Characters by their names. Most names are listed, and letters of any case will do for them. The
  name of an ideograph ends in its number, and the name of a syllable is made of the names of its
  letters.
-/
import Ambient.Text.Digits
import Ambient.Text.NameTable
import Ambient.Text.Split

namespace Ambient.Text

/-! ## Listed names -/

/-- The names of a row from a character on, with the numbers of the characters; `words` are those of
the name before it. -/
def namesFrom (number : Nat) (words : List (List Char)) (text : List Char) :
    List (List Char × Nat) :=
  match text with
  | [] => []
  | kept :: rest =>
    let own := rest.takeWhile (!isAsciiLower ·)
    let words := words.take (kept.toNat - 'a'.toNat) ++ splitOn ' ' own
    (joinWith [' '] words, number) :: namesFrom (number + 1) words (rest.drop own.length)
termination_by text.length
decreasing_by simp only [List.length_cons, List.length_drop]; omega

/-- The names of a row with the numbers of the characters. -/
def rowNames (row : String) : List (List Char × Nat) :=
  let text := row.toList
  let number := text.takeWhile (!isAsciiLower ·)
  namesFrom (valueIn 16 number) [] (text.drop number.length)

/-- The number of the character with a listed name, in capital letters. -/
def listed? (name : List Char) : Option Nat :=
  nameRows.findSome? fun row => (rowNames row).lookup name

/-! ## Names with numbers -/

/-- The number that four or five hexadecimal digits denote, letters among them being capital. -/
def nameNumber? (digits : List Char) : Option Nat :=
  if (digits.length == 4 || digits.length == 5) &&
      digits.all fun c => isDigitOf 16 c && !isAsciiLower c then
    some (valueIn 16 digits)
  else none

/-- Inclusive ranges of the unified ideographs. -/
def unifiedRanges : List (Nat × Nat) := [
  (0x3400, 0x4DBF), (0x4E00, 0x9FFF), (0x20000, 0x2A6DF), (0x2A700, 0x2B738), (0x2B740, 0x2B81D),
  (0x2B820, 0x2CEA1), (0x2CEB0, 0x2EBE0), (0x30000, 0x3134A)]

/-- The number of the unified ideograph with a name; its letters are capital. -/
def unified? (name : List Char) : Option Nat := do
  let digits ← afterPrefix? "CJK UNIFIED IDEOGRAPH-".toList name
  (nameNumber? digits).filter (inRanges unifiedRanges)

/-- The other names that end in numbers: what comes before the number, and the inclusive ranges of the
numbers. -/
def numberedNames : List (String × List (Nat × Nat)) := [
  ("CJK COMPATIBILITY IDEOGRAPH-", [(0xF900, 0xFA6D), (0xFA70, 0xFAD9), (0x2F800, 0x2FA1D)]),
  ("KHITAN SMALL SCRIPT CHARACTER-", [(0x18B00, 0x18CD5)]),
  ("NUSHU CHARACTER-", [(0x1B170, 0x1B2FB)])]

/-- The number of another character whose name, in capital letters, ends in it. It is written without
a zero in front. -/
def numbered? (name : List Char) : Option Nat :=
  numberedNames.findSome? fun (start, ranges) => do
    let digits ← afterPrefix? start.toList name
    let number ← nameNumber? digits
    if digits.head? != some '0' && inRanges ranges number then some number else none

/-! ## Names of syllables -/

/-- The names of the letters that a syllable begins with. -/
def initialNames : List String :=
  ["G", "GG", "N", "D", "DD", "R", "M", "B", "BB", "S", "SS", "", "J", "JJ", "C", "K", "T", "P", "H"]

/-- The names of the vowels of a syllable. -/
def vowelNames : List String :=
  ["A", "AE", "YA", "YAE", "EO", "E", "YEO", "YE", "O", "WA", "WAE", "OE", "YO", "U", "WEO", "WE",
   "WI", "YU", "EU", "YI", "I"]

/-- The names of the letters that a syllable ends with, the first one for none. -/
def finalNames : List String :=
  ["", "G", "GG", "GS", "N", "NJ", "NH", "D", "L", "LG", "LM", "LB", "LS", "LT", "LP", "LH", "M", "B",
   "BS", "S", "SS", "NG", "J", "C", "K", "T", "P", "H"]

/-- The places of the names that a text begins with, each with what follows the name. -/
def leading (names : List String) (text : List Char) : List (Nat × List Char) :=
  names.zipIdx.filterMap fun (name, place) => (afterPrefix? name.toList text).map (place, ·)

/-- The number of the syllable with a name; its letters are capital. Syllables are numbered by their
first letters, then by their vowels, then by their last letters. -/
def syllable? (name : List Char) : Option Nat := do
  let text ← afterPrefix? "HANGUL SYLLABLE ".toList name
  (leading initialNames text).findSome? fun (first, text) =>
    (leading vowelNames text).findSome? fun (vowel, text) =>
      (finalNames.idxOf? (String.ofList text)).map fun last =>
        0xAC00 + (first * vowelNames.length + vowel) * finalNames.length + last

/-! ## Characters -/

/-- The character with a name. -/
def charOfName? (name : List Char) : Option Char :=
  let capital := name.map Char.toUpper
  ((syllable? name).or ((unified? name).or ((numbered? capital).or (listed? capital)))).map Char.ofNat

/-- The name in braces at the start of a text. -/
def nameInBraces? (text : List Char) : Option (List Char) :=
  match text with
  | '\x7b' :: rest =>
    let name := rest.takeWhile (· != '\x7d')
    if name.isEmpty || name.length == rest.length then none else some name
  | _ => none

end Ambient.Text
