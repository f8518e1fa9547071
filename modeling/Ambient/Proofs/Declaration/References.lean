/-
  Ambient.Proofs.Declaration.References

  References agree with declarations. A type is declared under a name that is made when the model is
  built and when its module is formatted, and it is referred to by a name that is made when types
  are classified and written. Both names, and the namespaces before them, are the same
  (`Generator.text?_eq_declared`): the name that the symbol tells, and the namespace that the module
  of the symbol goes to.
-/
import Ambient.Declaration.Emission
import Ambient.Proofs.Model.Builder
import Ambient.Proofs.Text.Lines

namespace Ambient

/-! ## Types that are written as references -/

namespace TypeRef

/-- Whether a declared type is one of the generic types that are written as a tuple, a list or a
map. -/
def isCollection (r : TypeRef) : Bool :=
  r.kind != .enum &&
    (TypeExpr.tupleNames.contains r.simpleName && r.arguments.length != 0 ||
      TypeExpr.listNames.contains r.simpleName && r.arguments.length == 1 ||
      TypeExpr.mapNames.contains r.simpleName && r.arguments.length == 2)

end TypeRef

namespace TypeExpr

theorem ofRefs_eq_map (ts : List TypeRef) : ofRefs ts = ts.map ofRef := by
  induction ts with
  | nil => rfl
  | cons t rest ih => rw [ofRefs, ih, List.map_cons]

theorem texts_eq_map (scopes : Scopes) (ts : List TypeExpr) :
    texts scopes ts = ts.map (text scopes) := by
  induction ts with
  | nil => rfl
  | cons t rest ih => rw [texts, ih, List.map_cons]

/-- A name that is no tuple, list or map for a number of arguments is no collection. -/
theorem collection?_eq_none {name : String} {arguments : List TypeExpr}
    (htuple : tupleNames.contains name = true → arguments.length = 0)
    (hlist : listNames.contains name = true → arguments.length ≠ 1)
    (hmap : mapNames.contains name = true → arguments.length ≠ 2) :
    collection? name arguments = none := by
  have hno : arguments ≠ [] → ¬ tupleNames.contains name = true :=
    fun hne h => hne (List.length_eq_zero_iff.mp (htuple h))
  -- one, two or another number of arguments
  unfold collection?
  split
  · rfl
  · rw [if_neg (hno (by simp)), if_neg fun h => hlist h rfl]
  · rw [if_neg (hno (by simp)), if_neg fun h => hmap h rfl]
  · rename_i hnil _ _
    exact if_neg (hno hnil)

/-- A declared type that is neither a collection nor enumerable is classified as a reference. -/
theorem ofRef_eq_reference {r : TypeRef} (hkind : r.kind.isNamed = true)
    (henumerable : r.enumerable = false) (hcollection : r.isCollection = false) :
    ofRef r = .reference r.simpleName r.scope (r.kind == .enum) (r.arguments.map ofRef) := by
  obtain ⟨name, kind, scope, arguments, basic, enumerable⟩ := r
  have hnamed : ofRef ⟨name, kind, scope, arguments, basic, enumerable⟩ =
      named (Arity.strip name) kind scope enumerable (ofRefs arguments) := by
    cases kind <;> first | rfl | cases hkind
  -- enums are never collections, whatever their arguments
  have hnone : (if kind == .enum then none
      else collection? (Arity.strip name) (arguments.map ofRef)) = none := by
    by_cases henum : kind = .enum
    · simp [henum]
    · rw [if_neg (by simpa using henum)]
      simp only [TypeRef.isCollection, TypeRef.simpleName] at hcollection
      refine collection?_eq_none ?_ ?_ ?_ <;> intro hname <;> rw [List.length_map] <;>
        simp_all
  rw [hnamed, ofRefs_eq_map]
  unfold named
  dsimp only at henumerable ⊢
  rw [hnone, henumerable]
  rfl

end TypeExpr

/-! ## Writing references -/

/-- Arguments stand in angle brackets with commas between them. -/
theorem TypeExpr.bracketed_eq (arguments : List String) :
    bracketed arguments =
      if arguments = [] then "" else "<" ++ ", ".intercalate arguments ++ ">" := by
  rw [bracketed, String.joinWith_eq_intercalate]
  simp only [List.isEmpty_iff]

namespace TypeRef

variable {scopes : Scopes}

/-- Whether a namespace is looked up but cannot be. -/
def isLost (scopes : Scopes) (scope : Json) : Bool :=
  !scopes.isSingle && scope.isTruthy && !scope.isKey

/-- Types are written one by one, and the first namespace that cannot be looked up ends it. -/
theorem mapM_text? (ts : List TypeRef) :
    ts.mapM (text? scopes) =
      match (TypeExpr.allLookups (ts.map TypeExpr.ofRef)).find? (isLost scopes) with
      | some scope => unsuitable (.notKey scope.kind)
      | none => .ok ((ts.map TypeExpr.ofRef).map (TypeExpr.text scopes)) := by
  induction ts with
  | nil => rfl
  | cons t rest ih =>
    have hfirst : t.text? scopes =
        match (TypeExpr.ofRef t).lookups.find? (isLost scopes) with
        | some scope => unsuitable (.notKey scope.kind)
        | none => .ok ((TypeExpr.ofRef t).text scopes) := rfl
    -- the look-ups of the first type come before those of the others
    rw [List.mapM_cons, ih, hfirst, List.map_cons, TypeExpr.allLookups, List.find?_append]
    cases (TypeExpr.ofRef t).lookups.find? (isLost scopes) with
    | some scope => rfl
    | none =>
      cases (TypeExpr.allLookups (rest.map TypeExpr.ofRef)).find? (isLost scopes) <;> rfl

/-- A reference is the name that it is referred to by, qualified by its namespace, around the texts
of its arguments. -/
theorem text?_reference {r : TypeRef} {namespaceName : String} (hkind : r.kind.isNamed = true)
    (henumerable : r.enumerable = false) (hcollection : r.isCollection = false)
    (hscope : r.scope = .str namespaceName) :
    r.text? scopes = (do
      let arguments ← r.arguments.mapM (text? scopes)
      .ok (scopes.qualify (TypeExpr.referenceName r.simpleName (r.kind == .enum) ++
        TypeExpr.bracketed arguments) r.scope)) := by
  have hlost : isLost scopes r.scope = false := by
    simp [isLost, hscope, Json.isKey]
  have htext : r.text? scopes =
      match (TypeExpr.ofRef r).lookups.find? (isLost scopes) with
      | some scope => unsuitable (.notKey scope.kind)
      | none => .ok ((TypeExpr.ofRef r).text scopes) := rfl
  rw [htext, mapM_text?, TypeExpr.ofRef_eq_reference hkind henumerable hcollection,
    TypeExpr.lookups, List.find?_append, TypeExpr.text, TypeExpr.texts_eq_map]
  cases (TypeExpr.allLookups (r.arguments.map TypeExpr.ofRef)).find? (isLost scopes) with
  | some scope => rfl
  | none =>
    rw [List.find?_singleton, hlost]
    rfl

end TypeRef

/-! ## The namespace of a symbol -/

namespace Generator

variable {g : Generator} {override : Json} {model : Model}

/-- The namespaces of a model whose module names can serve as keys. -/
theorem resolve_formatModule (hg : g.moduleName = Naming.formatModule override)
    (hoverride : override = .null ∨ ∃ text, override = .str text)
    (hkeys : ∀ m ∈ model.modules, m.name.isKey = true) :
    let groups := Grouping.ofList (model.modules.map fun m =>
      (override.orElse m.name, Naming.prefixInterfaces m))
    g.resolve model = .ok {
      groups
      scopes := { names := model.modules.map fun m => (m.name, override.orElse m.name)
                  isSingle := groups.length == 1 } } := by
  have hresolved : ∀ m ∈ model.modules, (override.orElse m.name).isKey = true := by
    intro m hm
    unfold Json.orElse
    split
    · rcases hoverride with rfl | ⟨text, rfl⟩ <;> rfl
    · exact hkeys m hm
  -- neither the name that is asked for nor the one in the model fails as a key
  have hstep : ∀ m ∈ model.modules, g.resolveModule m =
      .ok ((override.orElse m.name, Naming.prefixInterfaces m),
        (m.name, override.orElse m.name)) := by
    intro m hm
    simp only [resolveModule, hg, Naming.formatModule, Json.asKey, hresolved m hm, hkeys m hm]
    rfl
  intro groups
  unfold resolve
  rw [mapM_ok hstep]
  simp only [bind, Except.bind, List.map_map]
  rfl

/-- A module with a name goes to a namespace with a name. -/
theorem exists_orElse_eq_str (hoverride : override = .null ∨ ∃ text, override = .str text)
    (name : String) : ∃ called, override.orElse (.str name) = .str called := by
  unfold Json.orElse
  split
  · rcases hoverride with rfl | ⟨text, rfl⟩
    · rename_i h
      cases h
    · exact ⟨text, rfl⟩
  · exact ⟨name, rfl⟩

/-- A module with a name for its namespace is called as all modules of that name are. -/
theorem nameOf_formatModule {m : Module} (hm : m ∈ model.modules) {name : String}
    (hname : m.name = .str name) {isSingle : Bool} :
    Scopes.nameOf
      { names := model.modules.map fun m => (m.name, override.orElse m.name), isSingle }
      (.str name) = override.orElse (.str name) := by
  unfold Scopes.nameOf
  split
  · rename_i source called hfound
    -- the first entry under the name decides, and it was made of a module of that name
    have hsource := (Json.same_str_iff _ _).mp
      (by simpa using List.find?_some hfound)
    obtain ⟨n, -, heq⟩ := List.mem_map.mp (List.mem_of_find?_eq_some hfound)
    cases heq
    rw [hsource]
  · rename_i hnone
    have := List.find?_eq_none.mp hnone (m.name, override.orElse m.name)
      (List.mem_map.mpr ⟨m, hm, rfl⟩)
    simp [hname] at this

/-- Where there is more than one namespace, a name in the namespace of a module stands behind what
the module is called. -/
theorem qualify_formatModule {m : Module} (hm : m ∈ model.modules) {name : String}
    (hname : m.name = .str name) (hne : name ≠ "") (isSingle : Bool) (text : String) :
    Scopes.qualify
      { names := model.modules.map fun m => (m.name, override.orElse m.name), isSingle } text
      (.str name) =
    (if isSingle = true then "" else (override.orElse (.str name)).text ++ ".") ++ text := by
  have hgiven : (Json.str name).isTruthy = true := by simpa [Json.isTruthy] using hne
  unfold Scopes.qualify
  rw [nameOf_formatModule hm hname, hgiven]
  cases isSingle with
  | true => exact String.empty_append.symm
  | false => rfl

end Generator

/-! ## The declaration of a symbol -/

namespace TypeSymbol

/-- A module holds the entry of a symbol. -/
def IsEntryOf (s : TypeSymbol) (m : Module) : Prop :=
  if s.isEnum then s.enumEntry ∈ m.enums else s.classEntry ∈ m.classes

/-- Some modules hold the entry of a symbol under a name. -/
def DeclaredAs (s : TypeSymbol) (name : String) (modules : List Module) : Prop :=
  if s.isEnum then s.enumEntry.renamed name ∈ modules.flatMap (·.enums)
  else s.classEntry.renamed name ∈ modules.flatMap (·.classes)

/-- The name that a symbol is declared under: classes go by their interface names. -/
def declaredName (s : TypeSymbol) : String :=
  if s.isEnum then s.simpleName else Naming.interfaceName s.simpleName

/-- Symbols that stand for each other are declared under one name. -/
theorem Stands.declaredName_eq {t s : TypeSymbol} (h : t.Stands s) :
    t.declaredName = s.declaredName := by
  rw [declaredName, declaredName, h.isEnum, h.simpleName]

/-- A type with the simple name of a symbol is referred to by the name that the symbol is declared
under, if either both or none of them is an enum. -/
theorem referenceName_eq_declaredName {r : TypeRef} {s : TypeSymbol}
    (hname : r.simpleName = s.simpleName) (henum : r.kind = .enum ↔ s.isEnum = true) :
    TypeExpr.referenceName r.simpleName (r.kind == .enum) = s.declaredName := by
  have hkind : (r.kind == .enum) = s.isEnum := by
    rw [Bool.eq_iff_iff, beq_iff_eq]
    exact henum
  rw [TypeExpr.referenceName, declaredName, hkind, hname]

theorem isEntryOf_of_mem {s : TypeSymbol} {members : List TypeSymbol} (hs : s ∈ members)
    (name : Json) : s.IsEntryOf (Module.ofSymbols name members) := by
  unfold IsEntryOf
  cases hkind : s.isEnum with
  | true => exact List.mem_map.mpr ⟨s, List.mem_filter.mpr ⟨hs, hkind⟩, rfl⟩
  | false =>
    exact List.mem_map.mpr ⟨s, List.mem_filter.mpr ⟨hs, by rw [hkind]; rfl⟩, rfl⟩

/-- A formatted module holds the entries of the module under their declared names. -/
theorem IsEntryOf.declaredAs {s : TypeSymbol} {m : Module} (h : s.IsEntryOf m)
    {modules : List Module} (hmodule : Naming.prefixInterfaces m ∈ modules) :
    s.DeclaredAs s.declaredName modules := by
  unfold IsEntryOf at h
  unfold DeclaredAs declaredName
  cases hkind : s.isEnum with
  | true =>
    rw [hkind, if_pos rfl] at h
    exact List.mem_flatMap.mpr ⟨_, hmodule, h⟩
  | false =>
    rw [hkind, if_neg Bool.false_ne_true] at h
    have hentry : s.classEntry.renamed (Naming.interfaceName s.simpleName) ∈
        (Naming.prefixInterfaces m).classes := List.mem_map.mpr ⟨s.classEntry, h, rfl⟩
    exact List.mem_flatMap.mpr ⟨_, hmodule, hentry⟩

end TypeSymbol

namespace Generator

variable {g : Generator} {model : Model}

/-- Whether a declaration is the one that is made of a symbol under a name. -/
def Declares (g : Generator) (scopes : Scopes) (s : TypeSymbol) (name : String)
    (d : Declaration) : Prop :=
  if s.isEnum then g.enum (s.enumEntry.renamed name) = d
  else g.interface scopes (s.classEntry.renamed name) = .ok d

theorem name_enum (entry : EnumEntry) : (g.enum entry).name = entry.name := by
  unfold enum
  cases g.enumStyle <;> rfl

theorem name_interface {scopes : Scopes} {entry : ClassEntry} {d : Declaration}
    (h : g.interface scopes entry = .ok d) : d.name = entry.name := by
  unfold interface at h
  obtain ⟨properties, -, hd⟩ := bind_eq_ok h
  cases hd
  rfl

theorem Declares.name_eq {scopes : Scopes} {s : TypeSymbol} {name : String} {d : Declaration}
    (h : g.Declares scopes s name d) : d.name = name := by
  unfold Declares at h
  split at h
  · rw [← h, name_enum]
    rfl
  · exact name_interface h

/-- The declarations of a namespace hold that of each visible entry of a selected kind. -/
theorem exists_declaration {scopes : Scopes} {output : Output} {modules : List Module}
    {declarations : List Declaration}
    (h : g.declarations scopes output modules = .ok declarations) {s : TypeSymbol} {name : String}
    (hdeclared : s.DeclaredAs name modules)
    (houtput : (if s.isEnum then output.enums else output.properties) = true)
    (hvisible : g.isVisible name = .ok true) :
    ∃ d ∈ declarations, g.Declares scopes s name d := by
  have hparts : ((if output.properties then g.interfaces scopes modules else .ok []) >>=
      fun interfaces => (if output.enums then g.enums modules else .ok []) >>=
        fun enums => .ok (interfaces ++ enums)) = .ok declarations := by
    rw [← h, Generator.declarations]
    cases output.properties <;> cases output.enums <;> rfl
  obtain ⟨interfaces, hinterfaces, hrest⟩ := bind_eq_ok hparts
  obtain ⟨enums, henums, hall⟩ := bind_eq_ok hrest
  cases hall
  -- only the kind of the symbol matters from here on
  unfold TypeSymbol.DeclaredAs at hdeclared
  unfold Declares
  cases hkind : s.isEnum with
  | true =>
    simp only [hkind, if_true] at houtput hdeclared ⊢
    rw [if_pos houtput] at henums
    obtain ⟨visible, hkept, hmade⟩ := bind_eq_ok henums
    cases hmade
    have hmem := (mem_keepIf_iff hkept).mpr ⟨hdeclared, hvisible⟩
    exact ⟨_, List.mem_append_right _ (List.mem_map.mpr ⟨_, hmem, rfl⟩), rfl⟩
  | false =>
    simp only [hkind, Bool.false_eq_true, if_false] at houtput hdeclared ⊢
    rw [if_pos houtput] at hinterfaces
    obtain ⟨visible, hkept, hmade⟩ := bind_eq_ok hinterfaces
    have hmem := (mem_keepIf_iff hkept).mpr ⟨hdeclared, hvisible⟩
    obtain ⟨d, hd, hmake⟩ := mem_of_mapM_ok hmade hmem
    exact ⟨d, List.mem_append_left _ hd, hmake⟩

/-- The block of a namespace holds the declaration of each visible entry of a selected kind. -/
theorem exists_block {resolution : Resolution} (hresolve : g.resolve model = .ok resolution)
    {output : Output} {blocks : List Block} (h : g.blocks model output = .ok blocks)
    {group : Json × List Module} (hgroup : group ∈ resolution.groups) {s : TypeSymbol}
    {name : String} (hdeclared : s.DeclaredAs name group.2)
    (houtput : (if s.isEnum then output.enums else output.properties) = true)
    (hvisible : g.isVisible name = .ok true) :
    ∃ block ∈ blocks, block.name = group.1 ∧
      ∃ d ∈ block.declarations, g.Declares resolution.scopes s name d := by
  obtain ⟨resolved, hresolved, hrest⟩ := bind_eq_ok h
  rw [hresolve] at hresolved
  cases hresolved
  obtain ⟨all, hall, hkept⟩ := bind_eq_ok hrest
  cases hkept
  -- a group that declares something is not filtered out
  obtain ⟨block, hblock, hmake⟩ := mem_of_mapM_ok hall hgroup
  obtain ⟨declarations, hdeclarations, hmade⟩ := bind_eq_ok hmake
  cases hmade
  obtain ⟨d, hd, hdeclares⟩ := exists_declaration hdeclarations hdeclared houtput hvisible
  have hne : declarations ≠ [] := List.ne_nil_of_mem hd
  exact ⟨_, List.mem_filter.mpr ⟨hblock, by simpa using hne⟩, rfl, d, hd, hdeclares⟩

end Generator

/-! ## Agreement -/

/-- A reference to a symbol is the name of the namespace that the module of the symbol goes to, where
there is more than one namespace, then the name that the symbol is declared under there, and then the
arguments. An equal symbol that came earlier may stand for the symbol. -/
theorem Generator.text?_eq_declared {symbols : List TypeSymbol} {model : Model}
    (hmodel : Model.ofSymbols symbols = .ok model) {g : Generator} {override : Json}
    (hg : g.moduleName = Naming.formatModule override)
    (hoverride : override = .null ∨ ∃ text, override = .str text)
    {s : TypeSymbol} (hs : s ∈ symbols) {namespaceName : String}
    (hscope : s.scope = .str namespaceName) (hne : namespaceName ≠ "")
    {r : TypeRef} (hkind : r.kind.isNamed = true) (hrscope : r.scope = s.scope)
    (hname : r.simpleName = s.simpleName) (henum : r.kind = .enum ↔ s.isEnum = true)
    (henumerable : r.enumerable = false) (hcollection : r.isCollection = false) :
    ∃ resolution t m modules,
      g.resolve model = .ok resolution ∧ t ∈ symbols ∧ t.Stands s ∧
      m ∈ model.modules ∧ m.name = s.scope ∧ t.IsEntryOf m ∧
      (override.orElse s.scope, modules) ∈ resolution.groups ∧
      Naming.prefixInterfaces m ∈ modules ∧
      (∀ output blocks, g.blocks model output = .ok blocks →
        (if s.isEnum then output.enums else output.properties) = true →
        g.isVisible s.declaredName = .ok true →
        ∃ block ∈ blocks, block.name = override.orElse s.scope ∧
          ∃ d ∈ block.declarations, d.name = s.declaredName ∧
            g.Declares resolution.scopes t s.declaredName d) ∧
      r.text? resolution.scopes = (do
        let arguments ← r.arguments.mapM (·.text? resolution.scopes)
        .ok ((if resolution.groups.length = 1 then "" else (override.orElse s.scope).text ++ ".") ++
          s.declaredName ++
          (if arguments = [] then "" else "<" ++ ", ".intercalate arguments ++ ">"))) := by
  obtain ⟨t, ht, hstands, members, hmember, hmodule⟩ := Model.exists_module hmodel hs hscope hne
  have hresolve := resolve_formatModule hg hoverride (Model.isKey_name hmodel)
  set m := Module.ofSymbols (.str namespaceName) members
  have hmname : m.name = s.scope := hscope.symm
  have hentry : t.IsEntryOf m := TypeSymbol.isEntryOf_of_mem hmember _
  -- the module of the symbol goes to the namespace by which references to its own namespace go
  have hgoes : (override.orElse s.scope, Naming.prefixInterfaces m) ∈
      model.modules.map fun m => (override.orElse m.name, Naming.prefixInterfaces m) :=
    List.mem_map.mpr ⟨m, hmodule, by rw [hmname]⟩
  obtain ⟨called, hcalled⟩ := exists_orElse_eq_str hoverride namespaceName
  rw [hscope, hcalled] at hgoes
  obtain ⟨modules, hgroup, hformatted⟩ := Grouping.mem_ofList hgoes
  refine ⟨_, t, m, modules, hresolve, ht, hstands, hmodule, hmname, hentry, ?_, hformatted, ?_, ?_⟩
  · rwa [hscope, hcalled]
  · intro output blocks hblocks houtput hvisible
    have hdeclared := hentry.declaredAs hformatted
    rw [hstands.declaredName_eq] at hdeclared
    rw [← hstands.isEnum] at houtput
    obtain ⟨block, hblock, hblockName, d, hd, hdeclares⟩ :=
      exists_block hresolve hblocks hgroup hdeclared houtput hvisible
    refine ⟨block, hblock, ?_, d, hd, hdeclares.name_eq, hdeclares⟩
    rw [hblockName, hscope, hcalled]
  · rw [TypeRef.text?_reference hkind henumerable hcollection (hrscope.trans hscope),
      TypeSymbol.referenceName_eq_declaredName hname henum, hrscope, hscope]
    congr 1
    funext arguments
    rw [qualify_formatModule hmodule (hmname.trans hscope) hne, TypeExpr.bracketed_eq]
    simp only [beq_iff_eq, String.append_assoc]

/-- A generic class of one of two namespaces is referred to by both of its names. -/
theorem Generator.text?_eq_declared_generic :
    let box : TypeSymbol := { name := "Box`1", scope := .str "Shop", parameters := [.str "T"] }
    let order : TypeSymbol := { name := "Order", scope := .str "Sales" }
    let model := Builder.build { symbols := [box, order] }
    let r : TypeRef :=
      { name := "Box`1", kind := .classType, scope := .str "Shop"
        arguments := [.ofPrimitive .int] }
    ∃ (resolution : Resolution) (t : TypeSymbol) (m : Module) (modules : List Module),
      ({} : Generator).resolve model = .ok resolution ∧ t.Stands box ∧
      m ∈ model.modules ∧ m.name = .str "Shop" ∧ t.IsEntryOf m ∧
      (Json.str "Shop", modules) ∈ resolution.groups ∧ Naming.prefixInterfaces m ∈ modules ∧
      box.declaredName = "IBox" ∧ r.text? resolution.scopes = .ok "Shop.IBox<number>" := by
  have hmodel :
      let box : TypeSymbol := { name := "Box`1", scope := .str "Shop", parameters := [.str "T"] }
      let order : TypeSymbol := { name := "Order", scope := .str "Sales" }
      Model.ofSymbols [box, order] = .ok (Builder.build { symbols := [box, order] }) := by rfl
  intro box order model r
  obtain ⟨resolution, t, m, modules, hresolve, -, hstands, hmodule, hname, hentry, hgroup,
      hformatted, -, htext⟩ :=
    Generator.text?_eq_declared hmodel (g := {}) rfl (.inl rfl) (List.mem_cons_self) rfl
      (by decide) (r := r) rfl rfl rfl (by decide) rfl (by decide)
  have hlength : (({} : Generator).resolve model).map (·.groups.length) = .ok 2 := by rfl
  rw [hresolve] at hlength
  have htwo : resolution.groups.length = 2 := Except.ok.inj hlength
  refine ⟨resolution, t, m, modules, hresolve, hstands, hmodule, hname, hentry, hgroup, hformatted,
    by decide, ?_⟩
  rw [htext, htwo]
  rfl

end Ambient
