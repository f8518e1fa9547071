/-
  Ambient.Sweep.Removal

  Removal of hidden declarations from a text. The text is read from its start; a declaration whose
  identifier holds the marker is cut out with the rest of its line if nothing else stands there, and
  reading goes on at the cut. Every identifier holds the empty marker.
-/
import Ambient.Sweep.Braces
import Ambient.Sweep.Heading
import Ambient.Text.Edges
import Ambient.Visibility

namespace Ambient.Sweep

/-- The text without the rest of its first line, if that is blank. -/
def dropBlankRest (text : List Char) : List Char :=
  if Text.allBlank (text.takeWhile (· != '\n')) then (text.dropWhile (· != '\n')).drop 1 else text

/-- The text after the declaration with a heading. -/
def Heading.rest (heading : Heading) : List Char :=
  dropBlankRest
    (if heading.keyword == .type then afterTerminator 0 heading.after
     else afterBlock heading.after)

theorem length_dropBlankRest_le (text : List Char) :
    (dropBlankRest text).length ≤ text.length := by
  unfold dropBlankRest
  split
  · have := (List.dropWhile_suffix (l := text) (· != '\n')).length_le
    simp only [List.length_drop]
    omega
  · exact Nat.le_refl _

theorem length_rest_le (heading : Heading) : heading.rest.length ≤ heading.after.length := by
  unfold Heading.rest
  refine Nat.le_trans (length_dropBlankRest_le _) ?_
  split
  · exact (afterTerminator_suffix 0 _).length_le
  · exact (afterBlock_suffix _).length_le

/-- The heading at the start of a text, if a declaration can begin there. -/
def headingIf? (anchored : Bool) (text : List Char) : Option Heading :=
  if anchored then heading? text else none

theorem length_after_headingIf {anchored : Bool} {text : List Char} {heading : Heading}
    (h : headingIf? anchored text = some heading) : heading.after.length < text.length := by
  unfold headingIf? at h
  split at h
  · exact length_after_heading h
  · simp at h

/-- The text without the declarations whose identifiers hold a marker; `anchored` tells whether a
declaration can begin at its start. -/
def removeFrom (marker : List Char) (anchored : Bool) (text : List Char) : List Char :=
  match text with
  | [] => []
  | c :: rest =>
    match h : headingIf? anchored (c :: rest) with
    | some heading =>
      have hafter : heading.after.length < rest.length + 1 := length_after_headingIf h
      have : heading.rest.length < rest.length + 1 :=
        Nat.lt_of_le_of_lt (length_rest_le heading) hafter
      if Visibility.holds marker heading.identifier then
        removeFrom marker anchored heading.rest
      else
        (c :: rest).take ((c :: rest).length - heading.after.length) ++
          removeFrom marker false heading.after
    | none => c :: removeFrom marker (isAnchor c) rest
termination_by text.length

/-- The text without the declarations whose identifiers hold a marker. -/
def removeHidden (marker text : List Char) : List Char :=
  removeFrom marker true text

end Ambient.Sweep
