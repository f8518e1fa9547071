/-
  Ambient.Proofs.Keeping

  Steps over lists where each step may fail. Where no step fails the results are those of the steps
  in a row, and where the whole succeeds each item has its result.
-/
import Ambient.Keeping
import Mathlib.Data.List.Forall2

namespace Ambient

variable {α β : Type}

/-! ## Success from success -/

/-- Where no step fails, the results are those of the steps in a row. -/
theorem mapM_ok {step : α → Except Fault β} {f : α → β} {items : List α}
    (h : ∀ item ∈ items, step item = .ok (f item)) : items.mapM step = .ok (items.map f) := by
  induction items with
  | nil => rfl
  | cons first rest ih =>
    have hrest := ih fun item hi => h item (by simp [hi])
    rw [List.mapM_cons, h first (by simp), hrest]
    rfl

/-! ## What a success tells -/

/-- A sequence succeeds only if both of its parts do. -/
theorem bind_eq_ok {value : Except Fault α} {next : α → Except Fault β} {result : β}
    (h : value >>= next = .ok result) : ∃ a, value = .ok a ∧ next a = .ok result := by
  cases value with
  | error fault => cases h
  | ok a => exact ⟨a, rfl, h⟩

/-- Where all steps succeed, each item has a result. -/
theorem mem_of_mapM_ok {step : α → Except Fault β} {items : List α} {results : List β}
    (h : items.mapM step = .ok results) {item : α} (hitem : item ∈ items) :
    ∃ result ∈ results, step item = .ok result := by
  induction items generalizing results with
  | nil => cases hitem
  | cons first rest ih =>
    rw [List.mapM_cons] at h
    -- a step for the first item, then the steps for the others
    obtain ⟨r, hfirst, h⟩ := bind_eq_ok h
    obtain ⟨rs, hrest, h⟩ := bind_eq_ok h
    cases h
    rcases List.mem_cons.mp hitem with rfl | hmem
    · exact ⟨r, by simp, hfirst⟩
    · obtain ⟨result, hresult, hstep⟩ := ih hrest hmem
      exact ⟨result, by simp [hresult], hstep⟩

/-- Where all steps succeed, each result is that of an item. -/
theorem exists_of_mem_mapM_ok {step : α → Except Fault β} {items : List α} {results : List β}
    (h : items.mapM step = .ok results) {result : β} (hresult : result ∈ results) :
    ∃ item ∈ items, step item = .ok result := by
  induction items generalizing results with
  | nil =>
    cases h
    cases hresult
  | cons first rest ih =>
    rw [List.mapM_cons] at h
    obtain ⟨r, hfirst, h⟩ := bind_eq_ok h
    obtain ⟨rs, hrest, h⟩ := bind_eq_ok h
    cases h
    rcases List.mem_cons.mp hresult with rfl | hmem
    · exact ⟨first, by simp, hfirst⟩
    · obtain ⟨item, hitem, hstep⟩ := ih hrest hmem
      exact ⟨item, by simp [hitem], hstep⟩

/-- Where all steps succeed, the results stand in the rows of their items. -/
theorem forall₂_of_mapM_ok {step : α → Except Fault β} {items : List α} {results : List β}
    (h : items.mapM step = .ok results) :
    List.Forall₂ (fun item result => step item = .ok result) items results := by
  induction items generalizing results with
  | nil =>
    cases h
    exact .nil
  | cons first rest ih =>
    rw [List.mapM_cons] at h
    obtain ⟨r, hfirst, h⟩ := bind_eq_ok h
    obtain ⟨rs, hrest, h⟩ := bind_eq_ok h
    cases h
    exact .cons hfirst (ih hrest)

/-- What all steps leave as it is stands in the same row in the results. -/
theorem map_eq_of_mapM_ok {γ : Type} {step : α → Except Fault β} {before : α → γ} {after : β → γ}
    (hstep : ∀ item result, step item = .ok result → after result = before item)
    {items : List α} {results : List β} (h : items.mapM step = .ok results) :
    results.map after = items.map before := by
  induction items generalizing results with
  | nil =>
    cases h
    rfl
  | cons first rest ih =>
    rw [List.mapM_cons] at h
    obtain ⟨r, hfirst, h⟩ := bind_eq_ok h
    obtain ⟨rs, hrest, h⟩ := bind_eq_ok h
    cases h
    rw [List.map_cons, List.map_cons, ih hrest, hstep first r hfirst]

/-- Steps may keep something of each item beside its result. -/
theorem mapM_beside {γ : Type} (step : α → Except Fault β) (kept : α → γ) (items : List α) :
    (do
      let pairs ← items.mapM fun item => do .ok (kept item, ← step item)
      .ok (pairs.map (·.2))) = items.mapM step := by
  induction items with
  | nil => rfl
  | cons first rest ih =>
    rw [List.mapM_cons, List.mapM_cons, ← ih]
    cases step first with
    | error fault => rfl
    | ok result =>
      cases rest.mapM fun item => do .ok (kept item, ← step item) <;> rfl

/-! ## Steps over images -/

/-- Where a step on an image has the image of its result, so have all steps in a row. -/
theorem mapM_map_of {γ δ : Type} {step : α → Except Fault β} {step' : γ → Except Fault δ} {f : α → γ}
    {h : β → δ} (hstep : ∀ item, step' (f item) = (step item).map h) (items : List α) :
    (items.map f).mapM step' = (items.mapM step).map (List.map h) := by
  induction items with
  | nil => rfl
  | cons first rest ih =>
    rw [List.map_cons, List.mapM_cons, List.mapM_cons, hstep, ih]
    cases step first with
    | error fault => rfl
    | ok result => cases rest.mapM step <;> rfl

/-- The images of items are kept as the items are, if the images of those that pass are the items
themselves. -/
theorem keepIf_map_of {test : α → Except Fault Bool} {f : α → α}
    (htest : ∀ item, test (f item) = test item)
    (hpass : ∀ item, test item = .ok true → f item = item) (items : List α) :
    keepIf test (items.map f) = keepIf test items := by
  induction items with
  | nil => rfl
  | cons first rest ih =>
    rw [List.map_cons, keepIf, keepIf, htest, ih]
    cases hfirst : test first with
    | error fault => rfl
    | ok keep =>
      cases keep with
      | false => rfl
      | true => rw [hpass first hfirst]

/-! ## Keeping -/

section

variable {test : α → Except Fault Bool} {items : List α}

/-- What is kept are the items that pass their test. -/
theorem mem_keepIf_iff {kept : List α} (h : keepIf test items = .ok kept) {item : α} :
    item ∈ kept ↔ item ∈ items ∧ test item = .ok true := by
  induction items generalizing kept with
  | nil =>
    cases h
    simp
  | cons first rest ih =>
    rw [keepIf] at h
    obtain ⟨keep, hfirst, h⟩ := bind_eq_ok h
    obtain ⟨more, hrest, h⟩ := bind_eq_ok h
    cases h
    have hmore := ih hrest
    -- the first item stands before those that are kept of the rest if it passed
    by_cases heq : item = first
    · subst heq
      cases keep <;> simp [hmore, hfirst]
    · cases keep <;> simp [hmore, heq]

/-- What is kept stands in the order of the items. -/
theorem sublist_of_keepIf {kept : List α} (h : keepIf test items = .ok kept) :
    kept.Sublist items := by
  induction items generalizing kept with
  | nil =>
    cases h
    exact List.Sublist.refl _
  | cons first rest ih =>
    rw [keepIf] at h
    obtain ⟨keep, -, h⟩ := bind_eq_ok h
    obtain ⟨more, hrest, h⟩ := bind_eq_ok h
    cases h
    cases keep with
    | false => exact (ih hrest).cons _
    | true => exact (ih hrest).cons_cons _

/-- Something is kept exactly if no test fails. -/
theorem exists_keepIf_iff :
    (∃ kept, keepIf test items = .ok kept) ↔ ∀ item ∈ items, ∃ answer, test item = .ok answer := by
  induction items with
  | nil => exact ⟨fun _ _ h => (nomatch h), fun _ => ⟨[], rfl⟩⟩
  | cons first rest ih =>
    rw [List.forall_mem_cons, ← ih]
    constructor
    · rintro ⟨kept, h⟩
      rw [keepIf] at h
      obtain ⟨keep, hfirst, h⟩ := bind_eq_ok h
      obtain ⟨more, hrest, -⟩ := bind_eq_ok h
      exact ⟨⟨keep, hfirst⟩, more, hrest⟩
    · rintro ⟨⟨keep, hfirst⟩, more, hrest⟩
      exact ⟨_, by rw [keepIf, hfirst, hrest]; rfl⟩

end

end Ambient
