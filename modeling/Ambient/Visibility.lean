/-
  Ambient.Visibility

  Declarations whose name holds a marker are hidden, whatever the case of its letters. Every name
  holds the empty marker, but it hides nothing.
-/
import Ambient.Fault
import Ambient.Text.Case

namespace Ambient.Visibility

/-- Whether a name holds a marker, whatever the case of its letters. -/
def holds (marker : List Char) (name : List Char) : Bool :=
  Text.occursIn (Text.lower marker) (Text.lower name)

/-- Whether a marker hides a name. -/
def isHidden (marker : List Char) (name : List Char) : Bool :=
  !marker.isEmpty && holds marker name

/-- The marker that a setting gives; a value that does not count as given is no marker. -/
def markerOf (setting : Json) : Except Fault String :=
  if setting.isTruthy then setting.textFor "lower" else .ok ""

/-- Whether a declaration is seen under a setting of the marker. -/
def isVisible (setting : Json) (name : String) : Except Fault Bool := do
  let marker ← markerOf setting
  .ok (!isHidden marker.toList name.toList)

end Ambient.Visibility
