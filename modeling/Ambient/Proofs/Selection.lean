/-
  Ambient.Proofs.Selection

  What rules select. A selection fails only where a rule has no answer for a symbol, and holds the
  symbols that some rule selects; neither depends on the order of the rules or of the symbols.
-/
import Ambient.Proofs.Keeping
import Ambient.Selection

namespace Ambient

variable {staticClasses : Bool} {symbols : List TypeSymbol} {rules : List Rule}

/-- There is a selection exactly if each rule has an answer for each symbol. -/
theorem exists_selectAll_iff :
    (∃ selected, selectAll staticClasses symbols rules = .ok selected) ↔
      ∀ rule ∈ rules, ∀ s ∈ symbols, ∃ answer, rule.selects staticClasses s = .ok answer := by
  induction rules with
  | nil => exact ⟨fun _ _ h => (nomatch h), fun _ => ⟨[], rfl⟩⟩
  | cons rule rest ih =>
    rw [List.forall_mem_cons, ← ih, ← exists_keepIf_iff]
    constructor
    · rintro ⟨selected, h⟩
      rw [selectAll] at h
      obtain ⟨kept, hrule, h⟩ := bind_eq_ok h
      obtain ⟨others, hrest, -⟩ := bind_eq_ok h
      exact ⟨⟨kept, hrule⟩, others, hrest⟩
    · rintro ⟨⟨kept, hrule⟩, others, hrest⟩
      exact ⟨_, by rw [selectAll, hrule, hrest]; rfl⟩

/-- A symbol is selected exactly if some rule selects it. -/
theorem mem_selectAll_iff {selected : List TypeSymbol}
    (h : selectAll staticClasses symbols rules = .ok selected) {s : TypeSymbol} :
    s ∈ selected ↔ s ∈ symbols ∧ ∃ rule ∈ rules, rule.selects staticClasses s = .ok true := by
  induction rules generalizing selected with
  | nil =>
    cases h
    simp
  | cons rule rest ih =>
    rw [selectAll] at h
    obtain ⟨kept, hrule, h⟩ := bind_eq_ok h
    obtain ⟨others, hrest, h⟩ := bind_eq_ok h
    cases h
    simp only [List.mem_append, mem_keepIf_iff hrule, ih hrest, List.mem_cons, exists_eq_or_imp]
    exact and_or_left.symm

end Ambient
