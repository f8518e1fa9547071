/-
  Ambient.Text.Breaks

  Line breaks. A carriage return, alone or with a line feed after it, is a line break like the line
  feed.
-/

namespace Ambient.Text

/-- The text with line feeds as its only line breaks. -/
def unifyBreaks : List Char → List Char
  | [] => []
  | '\r' :: '\n' :: rest => '\n' :: unifyBreaks rest
  | '\r' :: rest => '\n' :: unifyBreaks rest
  | c :: rest => c :: unifyBreaks rest

end Ambient.Text
