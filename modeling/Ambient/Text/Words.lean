/-
  Ambient.Text.Words

  Compound names written in the snake style (`output_path`) and in the camel style (`outputPath`).
  The words of a name are told apart by capitals, hyphens and blanks.
-/
import Ambient.Text.Case
import Ambient.Text.Split

namespace Ambient.Text

/-! ## Word boundaries -/

/-- An underscore before each capital that starts a capitalised word, that is, a capital with
lower-case letters after it. The character before the capital must not be a line break, and a word
once found is passed over as a whole. -/
def splitCapitalised : List Char → List Char
  | c :: upper :: lower :: rest =>
    if c != '\n' && isAsciiUpper upper && isAsciiLower lower then
      c :: '_' :: upper :: ((lower :: rest).takeWhile isAsciiLower ++
        splitCapitalised ((lower :: rest).dropWhile isAsciiLower))
    else c :: splitCapitalised (upper :: lower :: rest)
  | text => text
termination_by text => text.length
decreasing_by
  · have h := (List.dropWhile_suffix (l := lower :: rest) isAsciiLower).length_le
    simp only [List.length_cons] at h ⊢
    omega
  · simp only [List.length_cons]
    omega

/-- An underscore between a lower-case letter or a digit and a capital. -/
def splitHumps : List Char → List Char
  | [] => []
  | c :: rest =>
    match rest with
    | upper :: _ =>
      if (isAsciiLower c || isAsciiDigit c) && isAsciiUpper upper then
        c :: '_' :: splitHumps rest
      else c :: splitHumps rest
    | [] => [c]

/-- A hyphen or a blank, which stand between words. -/
def isWordGap (c : Char) : Bool :=
  c == '-' || isBlank c

/-- One underscore in place of each run of hyphens and blanks; `inGap` tells whether the run has
begun already. -/
def closeGaps (inGap : Bool) : List Char → List Char
  | [] => []
  | c :: rest =>
    if isWordGap c then
      if inGap then closeGaps true rest else '_' :: closeGaps true rest
    else c :: closeGaps false rest

/-! ## Styles -/

/-- A name in the snake style: lower-case words with underscores between them. -/
def snakeCase (name : List Char) : List Char :=
  lower (closeGaps false (splitHumps (splitCapitalised name)))

/-- A name in the camel style: the words without underscores, all but the first capitalised. -/
def camelCase (name : List Char) : List Char :=
  match splitOn '_' (snakeCase name) with
  | [] => []
  | first :: others => first ++ others.flatMap capitalize

end Ambient.Text

/-- The string in the snake style. -/
def String.snakeCased (s : String) : String :=
  String.ofList (Ambient.Text.snakeCase s.toList)

/-- The string in the camel style. -/
def String.camelCased (s : String) : String :=
  String.ofList (Ambient.Text.camelCase s.toList)
