/-
  Ambient.Console.Cell

  Columns of the console. A character takes one cell, two cells or none; a joiner draws the character
  after it into the one before, and a selector makes some narrow characters wide. A tab goes on to
  the next stop of its line. Widths are those of the renderer from outside (`Ambient.Console`).
-/
import Ambient.Console.WidthTable
import Ambient.Text.Character
import Ambient.Text.Split

namespace Ambient.Console

/-! ## Cells -/

/-- The cells that a character takes on its own. -/
def cellsOf (c : Char) : Nat :=
  if Text.inRanges cellLessRanges c.toNat then 0
  else if Text.inRanges wideRanges c.toNat then 2
  else 1

/-- The joiner; what follows it is drawn into the character before it. -/
def joiner : Char := Char.ofNat 0x200D

/-- The selector that makes the character before it wide. -/
def wideSelector : Char := Char.ofNat 0xFE0F

/-- Whether a selector adds a cell to a character. -/
def isWidened (c : Char) : Bool :=
  Text.inRanges widenedRanges c.toNat

/-- The cells that a text takes after a character that a selector may still make wide. -/
def cellsAfter (last : Option Char) : List Char → Nat
  | [] => 0
  | c :: rest =>
    if c == joiner then
      match rest with
      | [] => 0
      | _ :: more => cellsAfter last more
    else if c == wideSelector then
      (if last.any isWidened then 1 else 0) + cellsAfter none rest
    else if cellsOf c == 0 then cellsAfter last rest
    else cellsOf c + cellsAfter (some c) rest

/-- The cells that a text takes. -/
def cells (text : List Char) : Nat :=
  cellsAfter none text

/-! ## Tabs -/

/-- The distance of tab stops. -/
def tabSize : Nat := 8

/-- The spaces from a column to the next stop, none if it is a stop itself. -/
def padding (column : Nat) : List Char :=
  List.replicate ((tabSize - column % tabSize) % tabSize) ' '

/-- The parts of a line between its tabs in a row, from a column on. A tab is at least one space. -/
def spread (column : Nat) : List (List Char) → List Char
  | [] => []
  | [part] => part
  | part :: rest =>
    let start := part ++ [' ']
    let reached := column + cells start
    start ++ padding reached ++ spread (reached + (padding reached).length) rest

/-- The text with spaces up to the next stop in place of tabs. -/
def expandTabs (text : List Char) : List Char :=
  Text.joinWith ['\n']
    ((Text.splitOn '\n' text).map fun line => spread 0 (Text.splitOn '\t' line))

end Ambient.Console
