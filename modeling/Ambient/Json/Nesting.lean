/-
  Ambient.Json.Nesting

  How deep lists and objects stand inside each other in a document. Brackets and braces in strings do
  not count, and neither does what stands after the place at which reading stops.
-/
import Ambient.Json.Reader

namespace Ambient.Json

/-! ## Depth -/

/-- Whether more than `room` lists and objects are open at once somewhere in a text; `inString` tells
whether the text begins inside of a string. -/
def isDeeperThan (room : Nat) (inString : Bool) : List Char → Bool
  | [] => false
  | '\\' :: c :: rest =>
    if inString then isDeeperThan room inString rest else isDeeperThan room inString (c :: rest)
  | c :: rest =>
    if c == '"' then isDeeperThan room (!inString) rest
    else if inString then isDeeperThan room inString rest
    else if c == '[' || c == '\x7b' then
      match room with
      | 0 => true
      | less + 1 => isDeeperThan less inString rest
    else if c == ']' || c == '\x7d' then isDeeperThan (room + 1) inString rest
    else isDeeperThan room inString rest

/-! ## Documents -/

/-- The part of a document that is read. -/
def readPart (document : String) : List Char :=
  match parse document with
  | .error (.malformed _ _ _ position) => document.toList.take position
  | _ => document.toList

/-- How deep lists and objects may stand inside each other in a document that is loaded. The format
knows no such bound: this is the room for nested calls that one host was measured to leave a reader,
and what is proved of documents would hold of any other number as well. -/
def maxNesting : Nat := 988

/-- Whether a document is nested too deeply to be loaded, as far as it is read. -/
def isTooDeep (document : String) : Bool :=
  isDeeperThan maxNesting false (readPart document)

end Ambient.Json
