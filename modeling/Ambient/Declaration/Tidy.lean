/-
  Ambient.Declaration.Tidy

  Tidying of blanks: no line ends in blanks, and of several blank lines in a row one is left.
-/
import Ambient.Text.Edges
import Ambient.Text.Split

namespace Ambient.Tidy

/-- The lines without blanks at their ends and without blank lines after blank lines; `afterBlank`
tells whether the line before was blank. -/
def tidyLines (afterBlank : Bool) : List (List Char) → List (List Char)
  | [] => []
  | line :: rest =>
    match Text.trimEnd line with
    | [] => if afterBlank then tidyLines true rest else [] :: tidyLines true rest
    | kept => kept :: tidyLines false rest

/-- The text with tidy lines. -/
def tidy (text : List Char) : List Char :=
  Text.joinWith ['\n'] (tidyLines false (Text.splitOn '\n' text))

end Ambient.Tidy

/-- The string with tidy lines. -/
def String.tidied (s : String) : String :=
  String.ofList (Ambient.Tidy.tidy s.toList)
