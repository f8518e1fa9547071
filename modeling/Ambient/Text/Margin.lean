/-
  Ambient.Text.Margin

  Lines with a margin in front of them. Blank lines get none.
-/
import Ambient.Text.Edges
import Ambient.Text.Split

namespace Ambient.Text

/-- A line after a margin; a blank line stays as it is. -/
def indentLine (margin line : List Char) : List Char :=
  if allBlank line then line else margin ++ line

/-- A text with a margin before each line that is not blank. -/
def indent (margin text : List Char) : List Char :=
  joinWith ['\n'] ((splitOn '\n' text).map (indentLine margin))

end Ambient.Text

/-- The string with a margin before each line that is not blank. -/
def String.indentedBy (s margin : String) : String :=
  String.ofList (Ambient.Text.indent margin.toList s.toList)
