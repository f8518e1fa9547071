/-
  Ambient.Json.Writer

  JSON documents. `compact` writes a value on one line in ASCII, `indented` writes one item a line
  with two more spaces at each depth and leaves characters beyond ASCII as they are.
-/
import Ambient.Json.Basic
import Ambient.Number.Shortest
import Ambient.Text.Quoted
import Ambient.Text.Split

namespace Ambient.Json

/-! ## Strings -/

/-- The escape of a character that cannot stand inside a JSON string. -/
def escape? (c : Char) : Option (List Char) :=
  if c == '"' then some ['\\', '"']
  else if c == '\\' then some ['\\', '\\']
  else if c == '\n' then some ['\\', 'n']
  else if c == '\r' then some ['\\', 'r']
  else if c == '\t' then some ['\\', 't']
  else if c.toNat == 8 then some ['\\', 'b']
  else if c.toNat == 12 then some ['\\', 'f']
  else if c.toNat < 32 then some ('\\' :: 'u' :: Text.hexPadded 4 c.toNat)
  else none

/-- The escape of one sixteen-bit unit. -/
def unitEscape (n : Nat) : List Char :=
  '\\' :: 'u' :: Text.hexPadded 4 n

/-- A character in ASCII: those beyond it are one escaped unit or a pair of them. -/
def asciiChar (c : Char) : List Char :=
  if c.toNat < 127 then [c]
  else if c.toNat < 0x10000 then unitEscape c.toNat
  else
    let offset := c.toNat - 0x10000
    unitEscape (0xD800 + offset / 0x400) ++ unitEscape (0xDC00 + offset % 0x400)

/-- A JSON string, with `plain` for the characters that need no escape. -/
def stringWith (plain : Char → List Char) (s : String) : String :=
  "\"" ++ String.ofList (s.toList.flatMap fun c => (escape? c).getD (plain c)) ++ "\""

/-- A JSON string that keeps characters beyond ASCII. -/
def stringText (s : String) : String :=
  stringWith (fun c => [c]) s

/-- A fractional number in a document. -/
def numberText (x : Double) : String :=
  x.textWith "NaN" "Infinity"

/-! ## One line -/

mutual

/-- A value on one line, in ASCII. -/
def compact : Json → String
  | .null => "null"
  | .bool b => if b then "true" else "false"
  | .int n => toString n
  | .float x => numberText x
  | .str s => stringWith asciiChar s
  | .arr items => "[" ++ String.joinWith "," (compactItems items) ++ "]"
  | .obj fields => "\x7b" ++ String.joinWith "," (compactFields fields) ++ "\x7d"

/-- Each of some values on one line. -/
def compactItems : List Json → List String
  | [] => []
  | x :: rest => compact x :: compactItems rest

/-- Each of some fields on one line. -/
def compactFields : List (String × Json) → List String
  | [] => []
  | (key, value) :: rest =>
    (stringWith asciiChar key ++ ":" ++ compact value) :: compactFields rest

end

/-! ## One item a line -/

/-- A line break with the spaces of a depth. -/
def lineBreak (depth : Nat) : String :=
  "\n" ++ String.ofList (List.replicate (2 * depth) ' ')

/-- Items between brackets, one a line; nothing stands between the brackets of no items. -/
def bracketed (opening closing : String) (depth : Nat) (items : List String) : String :=
  if items.isEmpty then opening ++ closing
  else opening ++ lineBreak (depth + 1) ++
    String.joinWith ("," ++ lineBreak (depth + 1)) items ++ lineBreak depth ++ closing

mutual

/-- A value at a depth, one item a line. -/
def indentedAt (depth : Nat) : Json → String
  | .null => "null"
  | .bool b => if b then "true" else "false"
  | .int n => toString n
  | .float x => numberText x
  | .str s => stringText s
  | .arr items => bracketed "[" "]" depth (indentedItems (depth + 1) items)
  | .obj fields => bracketed "\x7b" "\x7d" depth (indentedFields (depth + 1) fields)

/-- Each of some values at a depth. -/
def indentedItems (depth : Nat) : List Json → List String
  | [] => []
  | x :: rest => indentedAt depth x :: indentedItems depth rest

/-- Each of some fields at a depth. -/
def indentedFields (depth : Nat) : List (String × Json) → List String
  | [] => []
  | (key, value) :: rest =>
    (stringText key ++ ": " ++ indentedAt depth value) :: indentedFields depth rest

end

/-- A document with one item a line. -/
def indented (value : Json) : String :=
  indentedAt 0 value

end Ambient.Json
