/-
  Ambient.Proofs.Names

  Rules for the names in a model. A rule says which names and which namespaces are allowed, and a
  model obeys it if every name that can show in its declarations is allowed. Two rules matter: names
  on one line, and identifiers (dotted ones for namespaces). Both allow the names that naming makes
  of allowed ones.
-/
import Ambient.Naming
import Ambient.Proofs.Text.Identifier

namespace Ambient

/-! ## Rules -/

/-- Which names are allowed: `name` is about types, properties, members of enums and type
parameters, and `scope` about namespaces. -/
structure NameRule where
  name : String → Bool
  scope : String → Bool

namespace NameRule

/-- Names without line breaks. -/
def oneLine : NameRule where
  name s := !s.toList.contains '\n'
  scope s := !s.toList.contains '\n'

/-- ASCII identifiers, and dotted ones for namespaces. -/
def identifiers : NameRule where
  name s := Text.isIdentifier s.toList
  scope s := Text.isDotted s.toList

variable (rule : NameRule)

/-- Whether a value is an allowed name. -/
def admits : Json → Bool
  | .str s => rule.name s
  | _ => false

/-- Whether a value is an allowed namespace. -/
def admitsScope : Json → Bool
  | .str s => rule.scope s
  | _ => false

/-- Whether a value stands for no namespace or is an allowed one. -/
def admitsOptional (value : Json) : Bool :=
  !value.isTruthy || rule.admitsScope value

variable {rule}

theorem admits_iff {value : Json} :
    rule.admits value = true ↔ ∃ s, value = .str s ∧ rule.name s = true := by
  cases value <;> simp [admits]

theorem admitsScope_iff {value : Json} :
    rule.admitsScope value = true ↔ ∃ s, value = .str s ∧ rule.scope s = true := by
  cases value <;> simp [admitsScope]

/-- A namespace that is given is an allowed one. -/
theorem admitsScope_of_isTruthy {value : Json} (h : rule.admitsOptional value = true)
    (hgiven : value.isTruthy = true) : rule.admitsScope value = true := by
  simpa [admitsOptional, hgiven] using h

end NameRule

/-! ## Obedience -/

namespace TypeRef

mutual

/-- Whether the names that can show in the text of a type are allowed. An arity marker does not
show. -/
def obeys (rule : NameRule) : TypeRef → Bool
  | ⟨name, kind, scope, arguments, _, _⟩ =>
    (kind != .parameter || rule.name name) &&
      (!kind.isNamed || rule.name (Arity.strip name) && rule.admitsOptional scope) &&
      allObey rule arguments

/-- Whether some types obey a rule. -/
def allObey (rule : NameRule) : List TypeRef → Bool
  | [] => true
  | t :: ts => obeys rule t && allObey rule ts

end

end TypeRef

/-- Whether the names of a property obey a rule. -/
def Property.obeys (rule : NameRule) (p : Property) : Bool :=
  rule.admits p.name && p.type.obeys rule

/-- Whether the names of a class entry obey a rule. -/
def ClassEntry.obeys (rule : NameRule) (entry : ClassEntry) : Bool :=
  rule.name entry.name && entry.parameters.all rule.admits && entry.properties.all (·.obeys rule)

/-- Whether a member of an enum has an allowed name and an integer for its value. -/
def EnumMember.obeys (rule : NameRule) (m : EnumMember) : Bool :=
  rule.admits m.name && m.value.kind == .int

/-- Whether the names of an enum entry obey a rule. -/
def EnumEntry.obeys (rule : NameRule) (entry : EnumEntry) : Bool :=
  rule.name entry.name && entry.members.all (·.obeys rule)

/-- Whether the names of a module obey a rule. -/
def Module.obeys (rule : NameRule) (m : Module) : Bool :=
  rule.admitsScope m.name && m.classes.all (·.obeys rule) && m.enums.all (·.obeys rule)

/-- Whether the names of a model obey a rule. -/
def Model.obeys (rule : NameRule) (model : Model) : Bool :=
  model.modules.all (·.obeys rule)

namespace Model

variable {rule : NameRule} {model : Model}

theorem obeys_of_mem (h : model.obeys rule = true) {m : Module} (hm : m ∈ model.modules) :
    m.obeys rule = true :=
  List.all_eq_true.mp h m hm

end Model

namespace Module

variable {rule : NameRule} {m : Module}

theorem name_eq_str (h : m.obeys rule = true) :
    ∃ s, m.name = .str s ∧ rule.scope s = true := by
  simp only [obeys, Bool.and_eq_true] at h
  exact NameRule.admitsScope_iff.mp h.1.1

theorem class_obeys (h : m.obeys rule = true) {entry : ClassEntry} (he : entry ∈ m.classes) :
    entry.obeys rule = true := by
  simp only [obeys, Bool.and_eq_true] at h
  exact List.all_eq_true.mp h.1.2 entry he

theorem enum_obeys (h : m.obeys rule = true) {entry : EnumEntry} (he : entry ∈ m.enums) :
    entry.obeys rule = true := by
  simp only [obeys, Bool.and_eq_true] at h
  exact List.all_eq_true.mp h.2 entry he

end Module

/-! ## Names that naming makes -/

/-- A rule that allows the names which naming makes of allowed ones. -/
structure NameRule.Stable (rule : NameRule) : Prop where
  interfaceName : ∀ {n : String}, rule.name n = true → rule.name (Naming.interfaceName n) = true
  propertyText : ∀ {n : String}, rule.name n = true → rule.name (Naming.propertyText n) = true

namespace Naming

theorem interfaceName_cases (name : String) :
    interfaceName name = name ∨ interfaceName name = "I" ++ name := by
  unfold interfaceName
  split
  · exact .inl rfl
  · exact .inr rfl

theorem toList_propertyText (name : String) :
    (propertyText name).toList =
      match name.toList with
      | [] => []
      | first :: rest => Text.lower [first] ++ rest := by
  unfold propertyText
  cases h : name.toList <;> simp [h]

end Naming

namespace NameRule

theorem oneLine_name_iff {s : String} : oneLine.name s = true ↔ '\n' ∉ s.toList := by
  simp [oneLine]

theorem oneLine_stable : oneLine.Stable where
  interfaceName {n} h := by
    rw [oneLine_name_iff] at h ⊢
    rcases Naming.interfaceName_cases n with he | he <;> rw [he]
    · exact h
    · simpa using h
  propertyText {n} h := by
    rw [oneLine_name_iff] at h ⊢
    rw [Naming.toList_propertyText]
    cases hn : n.toList with
    | nil => simp
    | cons first rest =>
      rw [hn] at h
      have hfirst : first ≠ '\n' := fun he => h (by simp [he])
      have hrest : '\n' ∉ rest := fun hr => h (by simp [hr])
      simp [Text.break_notMem_lower_singleton hfirst, hrest]

/-- Identifiers hold no characters but those of names. -/
theorem notMem_of_identifier {s : String} (h : identifiers.name s = true) {c : Char}
    (hc : Text.isNameChar c = false) : c ∉ s.toList := by
  intro hmem
  rw [Text.isNameChar_of_mem h hmem] at hc
  cases hc

/-- Dotted identifiers hold dots besides. -/
theorem notMem_of_dotted {s : String} (h : identifiers.scope s = true) {c : Char}
    (hc : Text.isNameChar c = false) (hdot : c ≠ '.') : c ∉ s.toList := by
  intro hmem
  rcases Text.isNameChar_or_dot_of_mem h hmem with hchar | he
  · rw [hchar] at hc
    cases hc
  · exact hdot he

theorem identifiers_stable : identifiers.Stable where
  interfaceName {n} h := by
    rcases Naming.interfaceName_cases n with he | he <;> rw [he]
    · exact h
    · have hchars := Text.forall_isNameChar h
      show Text.isIdentifier ("I" ++ n).toList = true
      rw [String.toList_append]
      exact Text.isIdentifier_cons.mpr ⟨by decide, hchars⟩
  propertyText {n} h := by
    show Text.isIdentifier (Naming.propertyText n).toList = true
    rw [Naming.toList_propertyText]
    have h' : Text.isIdentifier n.toList = true := h
    cases hn : n.toList with
    | nil => simp [hn, Text.isIdentifier] at h'
    | cons first rest =>
      rw [hn, Text.isIdentifier_cons] at h'
      obtain ⟨d, hd, hstart⟩ := Text.lower_singleton_of_isNameStart h'.1
      simp only [hd, List.singleton_append]
      exact Text.isIdentifier_cons.mpr ⟨hstart, h'.2⟩

end NameRule

end Ambient
