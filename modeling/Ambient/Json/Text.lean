/-
  Ambient.Json.Text

  The text of a JSON value inside messages and declarations: strings in quotes, lists in brackets,
  objects in braces, and capitalised words for null and the truth values. A string on its own
  stands for itself.
-/
import Ambient.Json.Basic
import Ambient.Number.Shortest
import Ambient.Text.Quoted
import Ambient.Text.Split

namespace Ambient.Json

mutual

/-- The value as it is written inside a list or an object. -/
def display : Json → String
  | .null => "None"
  | .bool b => if b then "True" else "False"
  | .int n => toString n
  | .float x => x.textWith "nan" "inf"
  | .str s => s.inQuotes
  | .arr items => "[" ++ String.joinWith ", " (displayItems items) ++ "]"
  | .obj fields => "\x7b" ++ String.joinWith ", " (displayFields fields) ++ "\x7d"

/-- Each of some values as it is written inside a list. -/
def displayItems : List Json → List String
  | [] => []
  | x :: rest => display x :: displayItems rest

/-- Each of some fields as it is written inside an object. -/
def displayFields : List (String × Json) → List String
  | [] => []
  | (key, value) :: rest => (key.inQuotes ++ ": " ++ display value) :: displayFields rest

end

/-- The text of a value on its own. -/
def text : Json → String
  | .str s => s
  | value => value.display

@[simp] theorem text_str (s : String) : (Json.str s).text = s := rfl

end Ambient.Json
