/-
  Ambient.Proofs.Declaration.Merging

  One namespace for all modules. A generator that sends every module to one namespace writes what it
  would write of a single module of that name with all classes and all enums of the model
  (`generate_override`): in both cases there is one group, whose declarations need no namespaces.
-/
import Ambient.Proofs.Declaration.References
import Ambient.Proofs.Declaration.Scopes

namespace Ambient

/-- One module with the classes of all modules in order, and with all their enums. -/
def Model.merged (model : Model) (name : Json) : Module :=
  { name
    classes := model.modules.flatMap (·.classes)
    enums := model.modules.flatMap (·.enums) }

/-- A name for all modules is what each of them is called. -/
theorem Naming.orElse_override {name : String} (hname : name ≠ "") (own : Json) :
    (Json.str name).orElse own = .str name := by
  rw [Json.orElse, if_pos (by simpa [Json.isTruthy] using hname)]

namespace Generator

variable {g : Generator} {model : Model} {output : Output}

/-! ## Models with one namespace -/

/-- A model whose modules all go to one namespace is at most one block. -/
theorem blocks_of_one {name : Json} {modules : List Module} {scopes : Scopes}
    (h : g.resolve model = .ok { groups := [(name, modules)], scopes }) :
    g.blocks model output = (do
      let declarations ← g.declarations scopes output modules
      .ok ([({ name, declarations } : Block)].filter (!·.declarations.isEmpty))) := by
  rw [blocks, h]
  cases hdeclarations : g.declarations scopes output modules <;>
    simp [bind, Except.bind, pure, Except.pure, hdeclarations]

/-- A name for all modules makes them one group. -/
theorem resolve_override {name : String} (hname : name ≠ "")
    (hg : g.moduleName = Naming.formatModule (.str name))
    (hkeys : ∀ m ∈ model.modules, m.name.isKey = true) (hmodules : model.modules ≠ []) :
    g.resolve model = .ok {
      groups := [(.str name, model.modules.map Naming.prefixInterfaces)]
      scopes := { names := model.modules.map fun m => (m.name, .str name), isSingle := true } } := by
  have hresolve := resolve_formatModule hg (.inr ⟨name, rfl⟩) hkeys
  have hgroups : Grouping.ofList (model.modules.map fun m =>
        (Json.str name, Naming.prefixInterfaces m)) =
      [(.str name, model.modules.map Naming.prefixInterfaces)] := by
    have hvalues : model.modules.map Naming.prefixInterfaces ≠ [] := by simpa using hmodules
    have hone := Grouping.ofList_one name hvalues
    rwa [List.map_map] at hone
  simp only [Naming.orElse_override hname, hgroups] at hresolve
  exact hresolve

/-- A single module is a group of its own. -/
theorem resolve_one (hg : g.moduleName = Naming.formatModule .null) {m : Module} {name : String}
    (hname : m.name = .str name) :
    g.resolve { modules := [m] } = .ok {
      groups := [(.str name, [Naming.prefixInterfaces m])]
      scopes := { names := [(.str name, .str name)], isSingle := true } } := by
  have hkeys : ∀ n ∈ ({ modules := [m] } : Model).modules, n.name.isKey = true := by
    intro n hn
    rw [List.mem_singleton.mp hn, hname]
    rfl
  have hresolve := resolve_formatModule hg (.inl rfl) hkeys
  simp only [List.map_singleton, hname] at hresolve
  exact hresolve

/-! ## The merged module -/

theorem flatMap_classes_merged (model : Model) (name : Json) :
    (model.modules.map Naming.prefixInterfaces).flatMap (·.classes) =
      [Naming.prefixInterfaces (model.merged name)].flatMap (·.classes) := by
  rw [List.flatMap_map, List.flatMap_singleton]
  show _ = (model.modules.flatMap (·.classes)).map _
  rw [List.map_flatMap]
  rfl

theorem flatMap_enums_merged (model : Model) (name : Json) :
    (model.modules.map Naming.prefixInterfaces).flatMap (·.enums) =
      [Naming.prefixInterfaces (model.merged name)].flatMap (·.enums) := by
  rw [List.flatMap_map, List.flatMap_singleton]
  rfl

/-- A module without entries declares nothing, so there is no block for it. -/
theorem blocks_empty_module {name : String} (hg : g.moduleName = Naming.formatModule .null) :
    g.blocks { modules := [{ name := .str name }] } output = .ok [] := by
  rw [blocks_of_one (resolve_one hg rfl), declarations_of_empty _ _ _ rfl rfl]
  rfl

/-- To send all modules to one namespace is to generate one module with all of their entries. -/
theorem generate_override (g : Generator) {name : String} (hname : name ≠ "") {model : Model}
    (hkeys : ∀ m ∈ model.modules, m.name.isKey = true) (output : Output) :
    { g with moduleName := Naming.formatModule (.str name) }.generate model output =
      { g with moduleName := Naming.formatModule .null }.generate
        { modules := [model.merged (.str name)] } output := by
  have hblocks : { g with moduleName := Naming.formatModule (.str name) }.blocks model output =
      { g with moduleName := Naming.formatModule .null }.blocks
        { modules := [model.merged (.str name)] } output := by
    by_cases hmodules : model.modules = []
    · -- without modules there is no group, and the merged module has no entries
      have hmerged : model.merged (.str name) = { name := .str name } := by
        rw [Model.merged, hmodules]
        rfl
      rw [hmerged, blocks_empty_module rfl, blocks, resolve, hmodules]
      rfl
    · -- one group on either side, and the same entries in it
      rw [blocks_of_one (resolve_override hname rfl hkeys hmodules),
        blocks_of_one (resolve_one rfl rfl)]
      congr 1
      exact g.declarations_congr (Scopes.agree_of_isSingle rfl rfl) output
        (flatMap_classes_merged model (.str name)) (flatMap_enums_merged model (.str name))
  rw [generate, generate, hblocks]
  rfl

/-- References to other modules and to a namespace without a module lose their qualification in the
same way. -/
theorem generate_override_references :
    let color : EnumEntry :=
      { name := "Color", members := [{ name := .str "Red", value := .int 0 }] }
    let user : ClassEntry :=
      { name := "User"
        properties :=
          [{ name := .str "Favourite", type := .named "Color" .enum (.str "Paint") [] },
           { name := .str "Account", type := .named "Account" .classType (.str "Bank") [] }] }
    let order : ClassEntry :=
      { name := "Order"
        properties := [{ name := .str "By", type := .named "User" .classType (.str "Shop") [] }] }
    let model : Model :=
      { modules := [{ name := .str "Shop", classes := [user] },
          { name := .str "Paint", classes := [order], enums := [color] }] }
    let merged : Model :=
      { modules := [{ name := .str "App", classes := [user, order], enums := [color] }] }
    let g : Generator := { enumStyle := .stringLiteral, indent := .str "\t" }
    let text := "declare namespace App \x7b\n" ++
      "\texport interface IUser \x7b\n\t\tfavourite: Color;\n\t\taccount: IAccount;\n\t\x7d\n" ++
      "\texport interface IOrder \x7b\n\t\tby: IUser;\n\t\x7d\n" ++
      "\texport type Color = \"Red\";\n\x7d\n"
    (∀ m ∈ model.modules, m.name.isKey = true) ∧
    { g with moduleName := Naming.formatModule (.str "App") }.generate model {} = .ok text ∧
      { g with moduleName := Naming.formatModule .null }.generate merged {} = .ok text := by
  intro color user order model merged g text
  have hkeys : ∀ m ∈ model.modules, m.name.isKey = true := by decide
  have hmerged : { g with moduleName := Naming.formatModule .null }.generate merged {} =
      .ok text := by
    decide +kernel
  refine ⟨hkeys, ?_, hmerged⟩
  rw [g.generate_override (by decide) hkeys]
  exact hmerged

end Generator

end Ambient
