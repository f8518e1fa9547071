/-
  Ambient.Proofs.Declaration.HostTypes

  Types of the host in the text of members. Host types are told by the last segment of the text that a
  reference is written as, or by the whole of it. A class is written under its interface name, so the
  identifier type is told wherever it stands, and the types of dates never are: their names in the
  table have no prefix (`memberType_systemType`).
-/
import Ambient.Proofs.Declaration.References
import Ambient.Proofs.Text.Lines

namespace Ambient

/-! ## Wrapped types -/

namespace TypeRef

/-- A type is another one under some nullable wrappers. -/
inductive Wraps (core : TypeRef) : TypeRef → Prop where
  | bare : Wraps core core
  | nullable {t inner : TypeRef} (hkind : t.kind = .nullable) (helement : t.element? = some inner)
      (hinner : Wraps core inner) : Wraps core t

/-- Wrappers do not show in the form of a type. -/
theorem ofRef_of_wraps {core t : TypeRef} (h : Wraps core t) :
    TypeExpr.ofRef t = TypeExpr.ofRef core := by
  induction h with
  | bare => rfl
  | @nullable t inner hkind helement _ ih =>
    obtain ⟨name, kind, scope, arguments, basic, enumerable⟩ := t
    obtain rfl : kind = .nullable := hkind
    cases arguments with
    | nil => cases helement
    | cons first rest =>
      obtain rfl : first = inner := Option.some.inj helement
      rw [TypeExpr.ofRef, TypeExpr.ofFirst, Option.getD_some, ih]

theorem text?_of_wraps {core t : TypeRef} (h : Wraps core t) (scopes : Scopes) :
    t.text? scopes = core.text? scopes := by
  rw [text?, text?, ofRef_of_wraps h]

/-- A class or struct of the host's own namespace, without arguments. -/
structure IsSystemType (name : String) (t : TypeRef) : Prop where
  kind : t.kind = .classType ∨ t.kind = .struct
  simpleName : t.simpleName = name
  scope : t.scope = .str "System"
  arguments : t.arguments = []

namespace IsSystemType

variable {name : String} {t : TypeRef}

/-- Such a type is written under its interface name. -/
theorem text? (h : t.IsSystemType name) (henumerable : t.enumerable = false) (scopes : Scopes) :
    t.text? scopes = .ok (scopes.qualify (Naming.interfaceName name) (.str "System")) := by
  have hnamed : t.kind.isNamed = true := by
    rcases h.kind with hkind | hkind <;> rw [hkind] <;> rfl
  have henum : (t.kind == .enum) = false := by
    rcases h.kind with hkind | hkind <;> rw [hkind] <;> rfl
  have hcollection : t.isCollection = false := by
    simp [isCollection, h.arguments]
  rw [text?_reference hnamed henumerable hcollection h.scope, h.arguments, h.simpleName, h.scope,
    henum]
  show Except.ok (scopes.qualify (Naming.interfaceName name ++ "") (.str "System")) = _
  rw [String.append_empty]

/-- If it can be gone through, it is written as a list of anything. -/
theorem text?_of_enumerable (h : t.IsSystemType name) (henumerable : t.enumerable = true)
    (scopes : Scopes) : t.text? scopes = .ok "any[]" := by
  obtain ⟨written, kind, scope, arguments, basic, enumerable⟩ := t
  obtain rfl : enumerable = true := henumerable
  obtain rfl : arguments = [] := h.arguments
  rcases h.kind with hkind | hkind
  · obtain rfl : kind = .classType := hkind
    rfl
  · obtain rfl : kind = .struct := hkind
    rfl

end IsSystemType

end TypeRef

/-! ## Telling host types -/

namespace Naming

/-- A namespace before a name does not change its last segment. -/
theorem lastSegment_qualify {name : String} (h : '.' ∉ name.toList) (scopes : Scopes)
    (scope : Json) : lastSegment (scopes.qualify name scope) = name := by
  rw [Scopes.qualify]
  split
  · rw [lastSegment, Text.afterLast, Text.splitOn_of_notMem h]
    simp
  · have hdotted : ∀ s : String, (s ++ "." ++ name).toList = s.toList ++ '.' :: name.toList := by
      simp
    rw [lastSegment, hdotted, Text.afterLast_append h, String.ofList_toList]

theorem hostType_of_guid {text : String}
    (h : guidNames.contains (lastSegment text).lowered = true) : hostType text = "string" := by
  rw [hostType, if_pos h]

/-- A text whose last segment is in neither table stays as it is. -/
theorem hostType_of_lastSegment {text : String}
    (hguid : guidNames.contains (lastSegment text).lowered = false)
    (hdate : (dateNames.map lastSegment).contains (lastSegment text) = false) :
    hostType text = text := by
  have hnone : dateNames.contains text = false := by
    rw [← Bool.not_eq_true, List.contains_iff_mem] at hdate ⊢
    exact fun hmem => hdate (List.mem_map_of_mem hmem)
  rw [hostType, if_neg (by rw [hguid]; simp), if_neg (by rw [hnone]; simp)]

/-- What null adds to the text of a member. -/
def orNull (property : Property) : String :=
  if property.type.kind == .nullable then " | null" else ""

theorem memberType_eq (property : Property) (text : String) :
    memberType property text = hostType text ++ orNull property := by
  rw [memberType, orNull]
  split
  · rfl
  · rw [String.append_empty]

/-- The identifier type of the host is written as a string in every run. A date is written as the
interface of that name would be, qualified like any other reference, and in no run as a date. Only a
reference that is said to be a sequence hides either. -/
theorem memberType_systemType {property : Property} {core : TypeRef} {name : String}
    (hwraps : core.Wraps property.type) (hcore : core.IsSystemType name) (scopes : Scopes) :
    let written := (property.type.text? scopes).map (memberType property)
    (core.enumerable = true → written = .ok ("any[]" ++ orNull property)) ∧
      (core.enumerable = false → name = "Guid" → written = .ok ("string" ++ orNull property)) ∧
      (core.enumerable = false → name = "DateTime" ∨ name = "DateTimeOffset" →
        written = .ok (scopes.qualify ("I" ++ name) (.str "System") ++ orNull property) ∧
          written ≠ .ok ("Date" ++ orNull property)) := by
  intro written
  have hwritten : ∀ {text : String}, core.text? scopes = .ok text →
      written = .ok (hostType text ++ orNull property) := by
    intro text htext
    show (property.type.text? scopes).map (memberType property) = _
    rw [TypeRef.text?_of_wraps hwraps, htext, Except.map, memberType_eq]
  refine ⟨fun henumerable => ?_, fun hplain hguid => ?_, fun hplain hdate => ?_⟩
  · rw [hwritten (hcore.text?_of_enumerable henumerable scopes),
      hostType_of_lastSegment (by decide) (by decide)]
  · subst hguid
    have hlast : lastSegment (scopes.qualify (interfaceName "Guid") (.str "System")) =
        interfaceName "Guid" := lastSegment_qualify (by decide) scopes _
    rw [hwritten (hcore.text? hplain scopes), hostType_of_guid (by rw [hlast]; decide)]
  · have hname : interfaceName name = "I" ++ name ∧ '.' ∉ ("I" ++ name).toList ∧
        guidNames.contains ("I" ++ name).lowered = false ∧
        (dateNames.map lastSegment).contains ("I" ++ name) = false ∧ "I" ++ name ≠ "Date" := by
      rcases hdate with rfl | rfl <;> decide
    obtain ⟨hprefixed, hdot, hguid, htable, hne⟩ := hname
    have hlast := lastSegment_qualify hdot scopes (.str "System")
    have hkept : hostType (scopes.qualify ("I" ++ name) (.str "System")) =
        scopes.qualify ("I" ++ name) (.str "System") :=
      hostType_of_lastSegment (by rw [hlast, hguid]) (by rw [hlast, htable])
    rw [hwritten (hcore.text? hplain scopes), hprefixed, hkept]
    refine ⟨rfl, fun hsame => hne ?_⟩
    -- the last segments of the two texts differ
    have htext := (String.append_left_inj _).mp (Except.ok.inj hsame)
    rw [← hlast, htext]
    decide

/-- Under two wrappers and in a run that renames its namespace, the identifier type is a string. -/
theorem memberType_systemType_wrapped :
    let core : TypeRef := { name := "Guid", kind := .struct, scope := .str "System" }
    let property : Property := { name := .str "Id", type := .nullableOf (.nullableOf core) }
    let renamed : Scopes := { names := [(.str "System", .str "Base.Core")] }
    core.Wraps property.type ∧ core.IsSystemType "Guid" ∧
      (property.type.text? renamed).map (memberType property) = .ok "string | null" := by
  intro core property renamed
  have hwraps : core.Wraps property.type := .nullable rfl rfl (.nullable rfl rfl .bare)
  have hcore : core.IsSystemType "Guid" := ⟨.inr rfl, by decide, rfl, rfl⟩
  exact ⟨hwraps, hcore, (memberType_systemType hwraps hcore renamed).2.1 rfl rfl⟩

/-- A date of the host is written under an interface name. -/
theorem memberType_dateTime :
    let property : Property :=
      { name := .str "When", type := { name := "DateTime", kind := .struct, scope := .str "System" } }
    (property.type.text? {}).map (memberType property) = .ok "System.IDateTime" ∧
      (property.type.text? {}).map (memberType property) ≠ .ok "Date" := by
  refine ⟨rfl, fun h => ?_⟩
  have htext : "System.IDateTime" = "Date" := Except.ok.inj h
  exact absurd htext (by decide)

end Naming

end Ambient
