/-
  Ambient.Proofs.Model.Concealment

  What a model hides. What shows of a symbol under a marker is its exported properties and its
  values, or nothing of both where the marker hides its declared name (`TypeSymbol.shown`). What does
  not show takes part in telling symbols apart, so it must be able to serve as a key; then symbols
  that differ in name or namespace have a model exactly if what shows of them has one, and that is
  the same model without the contents of its hidden entries (`Model.ofSymbols_shown`).
-/
import Ambient.Proofs.Declaration.References
import Ambient.Proofs.Model.Builder

namespace Ambient

/-! ## Hidden names -/

/-- Whether a setting of the marker hides a name. -/
def Visibility.hides (setting : Json) (name : String) : Bool :=
  match isVisible setting name with
  | .ok visible => !visible
  | .error _ => false

theorem Visibility.hides_of_isVisible {setting : Json} {name : String}
    (h : isVisible setting name = .ok true) : hides setting name = false := by
  rw [hides, h]
  rfl

/-! ## What shows of a symbol -/

/-- A property as an exported member. -/
def Member.ofProperty (p : Property) : Member :=
  { name := p.name, type := p.type }

namespace TypeSymbol

variable (setting : Json)

/-- Whether the declaration of a symbol is hidden. -/
def isConcealed (s : TypeSymbol) : Bool :=
  Visibility.hides setting s.declaredName

/-- The members that show, as far as they do. -/
def shownMembers (s : TypeSymbol) : List Member :=
  if s.isConcealed setting then [] else s.properties.map Member.ofProperty

/-- The enum values that show. -/
def shownValues (s : TypeSymbol) : List EnumValue :=
  if s.isConcealed setting then [] else s.values

/-- The symbol with nothing but what shows of it. -/
def shown (s : TypeSymbol) : TypeSymbol :=
  { name := s.name, scope := s.scope, kind := s.kind, parameters := s.parameters
    members := s.shownMembers setting, values := s.shownValues setting }

/-- The members that do not show: all of them where the symbol is hidden. -/
def concealedMembers (s : TypeSymbol) : List Member :=
  if s.isConcealed setting then s.members else s.members.filter (!·.isExported)

/-- The enum values that do not show. -/
def concealedValues (s : TypeSymbol) : List EnumValue :=
  if s.isConcealed setting then s.values else []

/-- All that does not show can serve as keys. -/
structure ConcealsKeys (s : TypeSymbol) : Prop where
  member : ∀ m ∈ s.concealedMembers setting, ∀ value ∈ m.name :: m.type.scopes, value.isKey = true
  value : ∀ v ∈ s.concealedValues setting, v.name.isKey = true

/-- Two symbols agree in all that shows of them. -/
structure Alike (s t : TypeSymbol) : Prop where
  name : s.name = t.name
  scope : s.scope = t.scope
  kind : s.kind = t.kind
  parameters : s.parameters = t.parameters
  properties : s.isConcealed setting = false → s.properties = t.properties
  values : s.isConcealed setting = false → s.values = t.values

/-- Two symbols differ in name or in namespace. -/
def Apart (s t : TypeSymbol) : Prop :=
  ¬ (s.name = t.name ∧ s.scope.same t.scope = true)

instance : DecidableRel Apart := fun s t =>
  inferInstanceAs (Decidable (¬ (s.name = t.name ∧ s.scope.same t.scope = true)))

instance : DecidablePred IsKeyed := fun s =>
  inferInstanceAs (Decidable (∀ value ∈ s.looseValues, value.isKey = true))

variable {setting} {s t : TypeSymbol}

/-- Symbols that can be told apart conceal nothing that cannot serve as a key. -/
theorem IsKeyed.concealsKeys (h : s.IsKeyed) : s.ConcealsKeys setting where
  member m hm := by
    refine h.member ?_
    rw [concealedMembers] at hm
    split at hm
    · exact hm
    · exact (List.mem_filter.mp hm).1
  value v hv := by
    refine h.enumValue ?_
    rw [concealedValues] at hv
    split at hv
    · exact hv
    · cases hv

theorem declaredName_congr (hname : s.name = t.name) (hkind : s.kind = t.kind) :
    s.declaredName = t.declaredName := by
  rw [declaredName, declaredName, isEnum, isEnum, simpleName, simpleName, hname, hkind]

/-- The same shows of symbols that are alike. -/
theorem Alike.shown_eq (h : s.Alike setting t) : s.shown setting = t.shown setting := by
  have hconcealed : t.isConcealed setting = s.isConcealed setting := by
    rw [isConcealed, isConcealed, declaredName_congr h.name h.kind]
  rw [shown, shown, shownMembers, shownMembers, shownValues, shownValues, hconcealed, h.name,
    h.scope, h.kind, h.parameters]
  cases hc : s.isConcealed setting with
  | true => rfl
  | false => rw [h.properties hc, h.values hc]

theorem map_shown_eq {symbols symbols' : List TypeSymbol}
    (h : List.Forall₂ (Alike setting) symbols symbols') :
    symbols.map (shown setting) = symbols'.map (shown setting) := by
  induction h with
  | nil => rfl
  | cons hfirst _ ih => rw [List.map_cons, List.map_cons, hfirst.shown_eq, ih]

/-- The properties that show are those of the symbol, or none where it is hidden. -/
theorem properties_shown :
    (s.shown setting).properties = if s.isConcealed setting then [] else s.properties := by
  rw [properties, shown, shownMembers]
  split
  · rfl
  · have hexported : (s.properties.map Member.ofProperty).filter Member.isExported =
        s.properties.map Member.ofProperty := by
      refine List.filter_eq_self.mpr fun m hm => ?_
      obtain ⟨p, -, rfl⟩ := List.mem_map.mp hm
      rfl
    rw [hexported, List.map_map]
    exact List.map_id _

/-! ## Admission -/

private theorem find?_keys {values : List Json} (h : ∀ value ∈ values, value.isKey = true) :
    values.find? (!·.isKey) = none :=
  List.find?_eq_none.mpr fun value hvalue => by simp [h value hvalue]

/-- The members that are not exported have no value that cannot serve as a key. -/
private theorem find?_exported {members : List Member}
    (h : ∀ m ∈ members.filter (!·.isExported), ∀ value ∈ m.name :: m.type.scopes,
      value.isKey = true) :
    (((members.filter Member.isExported).map fun m => { name := m.name, type := m.type : Property }).map
        Member.ofProperty |>.flatMap fun m => m.name :: m.type.scopes).find? (!·.isKey) =
      (members.flatMap fun m => m.name :: m.type.scopes).find? (!·.isKey) := by
  induction members with
  | nil => rfl
  | cons m rest ih =>
    have hrest := ih fun n hn => h n ((List.sublist_cons_self m rest).filter _ |>.subset hn)
    cases hexported : m.isExported with
    | true =>
      rw [List.filter_cons_of_pos hexported]
      simp only [List.map_cons, List.flatMap_cons, List.find?_append, hrest, Member.ofProperty]
    | false =>
      have hkeys := h m (by simp [hexported])
      rw [List.filter_cons_of_neg (by simp [hexported]), hrest, List.flatMap_cons,
        List.find?_append, find?_keys hkeys, Option.none_or]

/-- The first value of the members that cannot serve as a key is one of those that show. -/
theorem find?_shownMembers (h : s.ConcealsKeys setting) :
    ((s.shownMembers setting).flatMap fun m => m.name :: m.type.scopes).find? (!·.isKey) =
      (s.members.flatMap fun m => m.name :: m.type.scopes).find? (!·.isKey) := by
  have hkeys := h.member
  cases hconcealed : s.isConcealed setting with
  | true =>
    rw [concealedMembers, if_pos hconcealed] at hkeys
    have hall : ∀ value ∈ s.members.flatMap fun m => m.name :: m.type.scopes,
        value.isKey = true := by
      intro value hvalue
      obtain ⟨m, hm, hvalue⟩ := List.mem_flatMap.mp hvalue
      exact hkeys m hm value hvalue
    rw [shownMembers, if_pos hconcealed, find?_keys hall]
    rfl
  | false =>
    rw [concealedMembers, hconcealed] at hkeys
    rw [shownMembers, hconcealed]
    exact find?_exported hkeys

theorem find?_shownValues (h : s.ConcealsKeys setting) :
    ((s.shownValues setting).map (·.name)).find? (!·.isKey) =
      (s.values.map (·.name)).find? (!·.isKey) := by
  have hkeys := h.value
  cases hconcealed : s.isConcealed setting with
  | true =>
    rw [concealedValues, if_pos hconcealed] at hkeys
    rw [shownValues, if_pos hconcealed, find?_keys (List.forall_mem_map.mpr hkeys)]
    rfl
  | false =>
    rw [shownValues, hconcealed]
    rfl

theorem asKey_shown (h : s.ConcealsKeys setting) :
    (s.shown setting).asKey = s.asKey.map (shown setting) := by
  have hfind : (s.shown setting).looseValues.find? (!·.isKey) =
      s.looseValues.find? (!·.isKey) := by
    simp only [looseValues, shown, List.find?_append, List.find?_cons, find?_shownMembers h,
      find?_shownValues h]
  rw [asKey, asKey, hfind]
  cases s.looseValues.find? (!·.isKey) <;> rfl

/-- What does not show never refuses a symbol. -/
theorem admitted_shown (h : s.ConcealsKeys setting) :
    Builder.admitted (some (s.shown setting)) =
      (Builder.admitted (some s)).map (shown setting) := by
  rw [Builder.admitted, Builder.admitted]
  show (do
      let declared ← Arity.declared s.name
      if declared != 0 && declared != s.parameters.length then
        .error (.symbol (.arityMismatch s.fullName declared s.parameters.length))
      else (s.shown setting).asKey) = _
  rw [asKey_shown h]
  cases Arity.declared s.name with
  | error fault => rfl
  | ok declared =>
    show (if declared != 0 && declared != s.parameters.length then _ else _) =
      Except.map _ (if declared != 0 && declared != s.parameters.length then _ else _)
    split <;> rfl

/-- What shows of a symbol can be told apart if the symbol can. -/
theorem IsKeyed.shown (hs : s.IsKeyed) (h : s.ConcealsKeys setting) :
    (s.shown setting).IsKeyed := by
  have hfind : (s.shown setting).asKey = .ok (s.shown setting) := by
    rw [asKey_shown h, asKey_eq_ok_iff.mpr ⟨rfl, hs⟩]
    rfl
  exact (asKey_eq_ok_iff.mp hfind).2

/-- Symbols that differ in name or namespace are not the same. -/
theorem Apart.same_eq_false (h : s.Apart t) (hs : s.scope.isKey = true)
    (ht : t.scope.isKey = true) : t.same s = false := by
  rw [← Bool.not_eq_true]
  intro hsame
  obtain ⟨hname, hscope, -⟩ := same_parts hsame
  exact h ⟨hname.symm, (Json.same_iff hs ht).mpr ((Json.same_iff ht hs).mp hscope).symm⟩

/-- Symbols that differ in name or namespace are distinct. -/
theorem distinct_of_apart {symbols : List TypeSymbol} (hapart : symbols.Pairwise Apart)
    (hkeyed : ∀ s ∈ symbols, s.IsKeyed) : symbols.eraseDupsBy same = symbols :=
  Distinct.eq_self (hapart.imp_of_mem fun hs ht h =>
    h.same_eq_false (hkeyed _ hs).scope (hkeyed _ ht).scope)

end TypeSymbol

/-! ## Hidden entries -/

/-- The entry, without its properties if it is hidden. -/
def ClassEntry.concealed (entry : ClassEntry) (hidden : Bool) : ClassEntry :=
  if hidden then { entry with properties := [] } else entry

/-- The entry, without its members if it is hidden. -/
def EnumEntry.concealed (entry : EnumEntry) (hidden : Bool) : EnumEntry :=
  if hidden then { entry with members := [] } else entry

@[simp] theorem ClassEntry.name_concealed (entry : ClassEntry) (hidden : Bool) :
    (entry.concealed hidden).name = entry.name := by
  cases hidden <;> rfl

@[simp] theorem EnumEntry.name_concealed (entry : EnumEntry) (hidden : Bool) :
    (entry.concealed hidden).name = entry.name := by
  cases hidden <;> rfl

/-- The module without what its hidden entries hold; its classes are declared as `called` tells. -/
def Module.concealed (setting : Json) (called : String → String) (m : Module) : Module :=
  { name := m.name
    classes := m.classes.map fun e => e.concealed (Visibility.hides setting (called e.name))
    enums := m.enums.map fun e => e.concealed (Visibility.hides setting e.name) }

/-- The model without what its hidden entries hold. -/
def Model.concealed (setting : Json) (model : Model) : Model :=
  { modules := model.modules.map (Module.concealed setting Naming.interfaceName) }

section

variable {setting : Json}

theorem TypeSymbol.classEntry_shown {s : TypeSymbol} (h : s.isEnum = false) :
    (s.shown setting).classEntry =
      s.classEntry.concealed (Visibility.hides setting (Naming.interfaceName s.simpleName)) := by
  have hconcealed : s.isConcealed setting =
      Visibility.hides setting (Naming.interfaceName s.simpleName) := by
    rw [isConcealed, declaredName, h]
    rfl
  rw [classEntry, properties_shown, hconcealed, ClassEntry.concealed]
  split <;> rfl

theorem TypeSymbol.enumEntry_shown {s : TypeSymbol} (h : s.isEnum = true) :
    (s.shown setting).enumEntry =
      s.enumEntry.concealed (Visibility.hides setting s.simpleName) := by
  have hconcealed : s.isConcealed setting = Visibility.hides setting s.simpleName := by
    rw [isConcealed, declaredName, if_pos h]
  rw [enumEntry, shown, shownValues, hconcealed, EnumEntry.concealed]
  split <;> rfl

/-- What shows of symbols is what their module holds without its hidden entries. -/
theorem Module.ofSymbols_shown (name : Json) (symbols : List TypeSymbol) :
    Module.ofSymbols name (symbols.map (TypeSymbol.shown setting)) =
      (Module.ofSymbols name symbols).concealed setting Naming.interfaceName := by
  have henum : ∀ s : TypeSymbol, (s.shown setting).isEnum = s.isEnum := fun _ => rfl
  rw [Module.ofSymbols, Module.concealed, Module.ofSymbols]
  simp only [List.filter_map, List.map_map, Function.comp_def, henum, Module.mk.injEq, true_and]
  constructor
  · refine List.map_congr_left fun s hs => ?_
    exact TypeSymbol.classEntry_shown (by simpa using (List.mem_filter.mp hs).2)
  · refine List.map_congr_left fun s hs => ?_
    exact TypeSymbol.enumEntry_shown (List.mem_filter.mp hs).2

/-- What shows of some symbols has the model of the symbols without its hidden entries, or is
refused as they are. -/
theorem Model.ofSymbols_shown {symbols : List TypeSymbol}
    (hapart : symbols.Pairwise TypeSymbol.Apart)
    (hconceals : ∀ s ∈ symbols, s.ConcealsKeys setting) :
    Model.ofSymbols (symbols.map (TypeSymbol.shown setting)) =
      (Model.ofSymbols symbols).map (Model.concealed setting) := by
  cases hmodel : Model.ofSymbols symbols with
  | error fault =>
    -- each symbol is refused exactly as what shows of it is
    rw [ofSymbols_eq_error_iff] at hmodel
    refine ofSymbols_eq_error_iff.mpr ?_
    rw [Builder.addAll_snd_congr fun s hs fault => ?_, hmodel]
    rw [TypeSymbol.admitted_shown (hconceals s hs)]
    cases Builder.admitted (some s) <;> simp [Except.map]
  | ok model =>
    obtain ⟨hadmitted, rfl⟩ := ofSymbols_eq_ok_iff.mp hmodel
    have hkeyed : ∀ s ∈ symbols, s.IsKeyed :=
      fun s hs => Builder.isKeyed_of_admitted (hadmitted s hs)
    have hkeyed' : ∀ t ∈ symbols.map (TypeSymbol.shown setting), t.IsKeyed :=
      List.forall_mem_map.mpr fun s hs => (hkeyed s hs).shown (hconceals s hs)
    -- symbols that are apart are distinct, and so is what shows of them
    have hdistinct : symbols.eraseDupsBy TypeSymbol.same = symbols :=
      TypeSymbol.distinct_of_apart hapart hkeyed
    have hdistinct' : (symbols.map (TypeSymbol.shown setting)).eraseDupsBy TypeSymbol.same =
        symbols.map (TypeSymbol.shown setting) :=
      TypeSymbol.distinct_of_apart (List.pairwise_map.mpr (hapart.imp fun h => h)) hkeyed'
    have hshown : Model.ofSymbols (symbols.map (TypeSymbol.shown setting)) =
        .ok (Builder.build { symbols := symbols.map (TypeSymbol.shown setting) }) := by
      refine ofSymbols_eq_ok_iff.mpr ⟨List.forall_mem_map.mpr fun s hs => ?_, by rw [hdistinct']⟩
      rw [TypeSymbol.admitted_shown (hconceals s hs), hadmitted s hs]
      rfl
    rw [hshown, hdistinct]
    refine congrArg Except.ok ?_
    have hname : TypeSymbol.moduleName ∘ TypeSymbol.shown setting = TypeSymbol.moduleName := rfl
    rw [Model.concealed, Model.mk.injEq, Builder.build_modules hkeyed, Builder.build_modules hkeyed',
      List.map_map, hname, List.map_map]
    refine List.map_congr_left fun name _ => ?_
    rw [List.filter_map, Module.ofSymbols_shown]
    rfl

end

end Ambient
