/-
  Ambient.Proofs.Symbol.Same

  When symbols are the same. A symbol whose values can all serve as keys is compared part by part;
  two of them are the same exactly if they agree when the numbers in them are counted
  (`TypeSymbol.same_iff`). Hence being the same is an equivalence of such symbols.
-/
import Ambient.Proofs.Distinct
import Ambient.Proofs.Json.Same
import Ambient.Symbol.TypeSymbol

namespace Ambient

/-! ## Types -/

namespace TypeRef

mutual

/-- The type with the numbers among its namespaces counted. -/
def counted : TypeRef → TypeRef
  | ⟨name, kind, scope, arguments, primitive, enumerable⟩ =>
    ⟨name, kind, scope.counted, allCounted arguments, primitive, enumerable⟩

/-- The types with the numbers among their namespaces counted. -/
def allCounted : List TypeRef → List TypeRef
  | [] => []
  | t :: ts => counted t :: allCounted ts

end

mutual

theorem same_iff : ∀ {t u : TypeRef}, (∀ scope ∈ t.scopes, scope.isKey = true) →
    (∀ scope ∈ u.scopes, scope.isKey = true) → (t.same u = true ↔ t.counted = u.counted)
  | ⟨name, kind, scope, arguments, primitive, enumerable⟩,
    ⟨name', kind', scope', arguments', primitive', enumerable'⟩, ht, hu => by
    have hscope : scope.same scope' = true ↔ scope.counted = scope'.counted :=
      Json.same_iff (ht scope (by simp [scopes])) (hu scope' (by simp [scopes]))
    have harguments : sameAll arguments arguments' = true ↔
        allCounted arguments = allCounted arguments' :=
      sameAll_iff (fun s hs => ht s (by simp [scopes, hs])) fun s hs => hu s (by simp [scopes, hs])
    simp only [same, counted, Bool.and_eq_true, beq_iff_eq, hscope, harguments, TypeRef.mk.injEq]
    tauto

theorem sameAll_iff : ∀ {ts us : List TypeRef}, (∀ scope ∈ allScopes ts, scope.isKey = true) →
    (∀ scope ∈ allScopes us, scope.isKey = true) →
    (sameAll ts us = true ↔ allCounted ts = allCounted us)
  | [], [], _, _ => by simp [sameAll]
  | [], _ :: _, _, _ => by simp [sameAll, allCounted]
  | _ :: _, [], _, _ => by simp [sameAll, allCounted]
  | t :: ts, u :: us, ht, hu => by
    have hfirst : t.same u = true ↔ t.counted = u.counted :=
      same_iff (fun s hs => ht s (by simp [allScopes, hs])) fun s hs =>
        hu s (by simp [allScopes, hs])
    have hrest : sameAll ts us = true ↔ allCounted ts = allCounted us :=
      sameAll_iff (fun s hs => ht s (by simp [allScopes, hs])) fun s hs =>
        hu s (by simp [allScopes, hs])
    simp only [sameAll, allCounted, Bool.and_eq_true, hfirst, hrest, List.cons.injEq]

end

end TypeRef

/-! ## Parts of symbols -/

namespace Member

/-- The member with the numbers in it counted. -/
def counted (m : Member) : Member :=
  { m with name := m.name.counted, type := m.type.counted }

theorem same_iff {m n : Member} (hm : ∀ value ∈ m.name :: m.type.scopes, value.isKey = true)
    (hn : ∀ value ∈ n.name :: n.type.scopes, value.isKey = true) :
    m.same n = true ↔ m.counted = n.counted := by
  obtain ⟨hname, htype⟩ := List.forall_mem_cons.mp hm
  obtain ⟨hname', htype'⟩ := List.forall_mem_cons.mp hn
  simp only [same, counted, Bool.and_eq_true, beq_iff_eq, Json.same_iff hname hname',
    TypeRef.same_iff htype htype', Member.mk.injEq]
  tauto

end Member

namespace EnumValue

/-- The value with its name counted where it is a number. -/
def counted (v : EnumValue) : EnumValue :=
  { v with name := v.name.counted }

theorem same_iff {v w : EnumValue} (hv : v.name.isKey = true) (hw : w.name.isKey = true) :
    v.same w = true ↔ v.counted = w.counted := by
  simp only [same, counted, Bool.and_eq_true, beq_iff_eq, Json.same_iff hv hw, EnumValue.mk.injEq]

end EnumValue

namespace TypeSymbol

/-- Lists agree item by item exactly if the images of their items are the same lists. -/
theorem sameList_iff {α β : Type} {same : α → α → Bool} {image : α → β} {as bs : List α}
    (h : ∀ a ∈ as, ∀ b ∈ bs, same a b = true ↔ image a = image b) :
    sameList same as bs = true ↔ as.map image = bs.map image := by
  induction as generalizing bs with
  | nil => cases bs <;> simp [sameList]
  | cons a as ih =>
    cases bs with
    | nil => simp [sameList]
    | cons b bs =>
      have hrest : sameList same as bs = true ↔ as.map image = bs.map image :=
        ih fun x hx y hy => h x (by simp [hx]) y (by simp [hy])
      simp only [sameList, Bool.and_eq_true, h a (by simp) b (by simp), hrest, List.map_cons,
        List.cons.injEq]

/-! ## Symbols -/

/-- The symbol with the numbers in it counted. -/
def counted (s : TypeSymbol) : TypeSymbol :=
  { s with
    scope := s.scope.counted
    parameters := s.parameters.map Json.counted
    members := s.members.map Member.counted
    values := s.values.map EnumValue.counted }

/-- A symbol whose values can all serve as keys. -/
def IsKeyed (s : TypeSymbol) : Prop :=
  ∀ value ∈ s.looseValues, value.isKey = true

namespace IsKeyed

variable {s : TypeSymbol} (h : s.IsKeyed)
include h

theorem scope : s.scope.isKey = true :=
  h _ (by simp [looseValues])

theorem parameter {value : Json} (hv : value ∈ s.parameters) : value.isKey = true :=
  h _ (by simp [looseValues, hv])

theorem member {m : Member} (hm : m ∈ s.members) :
    ∀ value ∈ m.name :: m.type.scopes, value.isKey = true := by
  intro value hv
  refine h value ?_
  simp only [looseValues, List.mem_append, List.mem_flatMap]
  exact .inl (.inr ⟨m, hm, hv⟩)

theorem enumValue {v : EnumValue} (hv : v ∈ s.values) : v.name.isKey = true := by
  refine h v.name ?_
  simp only [looseValues, List.mem_append, List.mem_map]
  exact .inr ⟨v, hv, rfl⟩

end IsKeyed

/-- A symbol can be told apart exactly if all its values can serve as keys. -/
theorem asKey_eq_ok_iff {s t : TypeSymbol} : s.asKey = .ok t ↔ t = s ∧ s.IsKeyed := by
  unfold asKey IsKeyed
  cases hfind : s.looseValues.find? (!·.isKey) with
  | none =>
    have hkeys : ∀ value ∈ s.looseValues, value.isKey = true := by
      simpa using List.find?_eq_none.mp hfind
    exact ⟨fun h => by cases h; exact ⟨rfl, hkeys⟩, fun h => by rw [h.1]⟩
  | some value =>
    have hno : value.isKey = false := by simpa using List.find?_some hfind
    refine ⟨fun h => (nomatch h), fun h => ?_⟩
    rw [h.2 value (List.mem_of_find?_eq_some hfind)] at hno
    cases hno

/-- Symbols that can be told apart are the same exactly if they agree when the numbers in them are
counted. -/
theorem same_iff {s t : TypeSymbol} (hs : s.IsKeyed) (ht : t.IsKeyed) :
    s.same t = true ↔ s.counted = t.counted := by
  have hparameters : sameList Json.same s.parameters t.parameters = true ↔
      s.parameters.map Json.counted = t.parameters.map Json.counted :=
    sameList_iff fun _ ha _ hb => Json.same_iff (hs.parameter ha) (ht.parameter hb)
  have hmembers : sameList Member.same s.members t.members = true ↔
      s.members.map Member.counted = t.members.map Member.counted :=
    sameList_iff fun _ ha _ hb => Member.same_iff (hs.member ha) (ht.member hb)
  have hvalues : sameList EnumValue.same s.values t.values = true ↔
      s.values.map EnumValue.counted = t.values.map EnumValue.counted :=
    sameList_iff fun _ ha _ hb => EnumValue.same_iff (hs.enumValue ha) (ht.enumValue hb)
  simp only [same, counted, Bool.and_eq_true, beq_iff_eq, Json.same_iff hs.scope ht.scope,
    hparameters, hmembers, hvalues, TypeSymbol.mk.injEq]
  tauto

/-- What equal symbols have in common. -/
theorem same_parts {s t : TypeSymbol} (h : s.same t = true) :
    s.name = t.name ∧ s.scope.same t.scope = true ∧ s.kind = t.kind ∧
      sameList Json.same s.parameters t.parameters = true ∧
      sameList Member.same s.members t.members = true ∧
      sameList EnumValue.same s.values t.values = true := by
  simp only [same, Bool.and_eq_true, beq_iff_eq] at h
  tauto

/-- The comparison of symbols that can be told apart tells by their parts. -/
theorem tells_counted {symbols : List TypeSymbol} (h : ∀ s ∈ symbols, s.IsKeyed) :
    Distinct.Tells TypeSymbol.same counted symbols :=
  fun s hs t ht => same_iff (h s hs) (h t ht)

end TypeSymbol

end Ambient
