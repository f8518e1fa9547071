/-
  Ambient.Console

  Lines on the console. Styles are taken out of a text and pictographs put in, and tabs are filled up
  with spaces.

  The modules of this part stand for a renderer of console text that comes from outside and follow its
  documented behaviour, so that a run can be compared line by line. No main statement of the library
  rests on their particulars: where one speaks of a run that prints, it supposes that printing is
  free of faults.
-/
import Ambient.Console.Cell
import Ambient.Console.Markup

namespace Ambient.Console

/-- What the console shows of a text with styles. -/
def shown (markup : String) : Except Fault String := do
  .ok (String.ofList (expandTabs (← plain markup.toList)))

/-- A line on the console. -/
def line (markup : String) : Except Fault String := do
  .ok ((← shown markup) ++ "\n")

end Ambient.Console
