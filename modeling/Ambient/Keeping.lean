/-
  Ambient.Keeping

  Keeping the items of a list for which a test holds, where the test itself may fail.
-/
import Ambient.Fault

namespace Ambient

/-- The items for which a test holds, in order; the first test that fails ends the search. -/
def keepIf {α : Type} (test : α → Except Fault Bool) : List α → Except Fault (List α)
  | [] => .ok []
  | first :: rest => do
    let keep ← test first
    let kept ← keepIf test rest
    .ok (if keep then first :: kept else kept)

/-- Where no test fails, keeping is filtering. -/
theorem keepIf_ok {α : Type} {test : α → Except Fault Bool} {p : α → Bool} {items : List α}
    (h : ∀ item ∈ items, test item = .ok (p item)) : keepIf test items = .ok (items.filter p) := by
  induction items with
  | nil => rfl
  | cons first rest ih =>
    have hrest := ih fun item hi => h item (by simp [hi])
    have hfirst := h first (by simp)
    cases hp : p first <;>
      simp [keepIf, hfirst, hrest, hp, bind, Except.bind]

end Ambient
