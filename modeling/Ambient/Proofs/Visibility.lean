/-
  Ambient.Proofs.Visibility

  Markers that are texts: every test of visibility has an answer.
-/
import Ambient.Visibility

namespace Ambient.Visibility

/-- A text is its own marker; the empty one does not count as given, and stands for itself too. -/
@[simp] theorem markerOf_str (marker : String) : markerOf (.str marker) = .ok marker := by
  unfold markerOf
  split
  · rfl
  · rename_i h
    have hempty : marker = "" := by simpa [Json.isTruthy] using h
    rw [hempty]

theorem isVisible_str (marker name : String) :
    isVisible (.str marker) name = .ok (!isHidden marker.toList name.toList) := by
  rw [isVisible, markerOf_str]
  rfl

end Ambient.Visibility
