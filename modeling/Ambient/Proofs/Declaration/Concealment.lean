/-
  Ambient.Proofs.Declaration.Concealment

  What is hidden leaves no trace in the text. The declarations of a namespace are those of its visible
  entries, so a model without the contents of its hidden entries has the same text
  (`Generator.generate_concealed`). Hence declarations depend only on what shows of the symbols
  (`generateDeclarations_of_alike`), as long as the rest can serve as keys: it still takes part in
  telling symbols apart, and a value that cannot ends the generation
  (`generateDeclarations_concealed_list`).
-/
import Ambient.Generation
import Ambient.Proofs.Model.Concealment

namespace Ambient

variable {g : Generator} {setting : Json} {output : Output}

/-! ## Visible entries -/

theorem ClassEntry.concealed_of_isVisible {entry : ClassEntry}
    (h : Visibility.isVisible setting entry.name = .ok true) :
    entry.concealed (Visibility.hides setting entry.name) = entry := by
  rw [Visibility.hides_of_isVisible h]
  rfl

theorem EnumEntry.concealed_of_isVisible {entry : EnumEntry}
    (h : Visibility.isVisible setting entry.name = .ok true) :
    entry.concealed (Visibility.hides setting entry.name) = entry := by
  rw [Visibility.hides_of_isVisible h]
  rfl

/-- Interfaces are hidden by the names that they are declared under. -/
theorem Naming.prefixInterfaces_concealed (m : Module) :
    prefixInterfaces (m.concealed setting interfaceName) =
      (prefixInterfaces m).concealed setting id := by
  rw [prefixInterfaces, prefixInterfaces, Module.withClasses, Module.withClasses, Module.concealed,
    Module.concealed]
  simp only [List.map_map, Module.mk.injEq, true_and, and_true]
  refine List.map_congr_left fun entry _ => ?_
  rw [Function.comp_apply, Function.comp_apply, ClassEntry.name_concealed, ClassEntry.concealed,
    ClassEntry.concealed]
  split <;> rename_i h
  · rw [if_pos (by exact h)]
    rfl
  · rw [if_neg (by exact h)]

namespace Generator

/-- The declarations of a namespace show nothing of its hidden entries. -/
theorem declarations_concealed (hg : g.isVisible = Visibility.isVisible setting) (scopes : Scopes)
    (output : Output) (modules : List Module) :
    g.declarations scopes output (modules.map (Module.concealed setting id)) =
      g.declarations scopes output modules := by
  have hclasses : (modules.map (Module.concealed setting id)).flatMap (·.classes) =
      (modules.flatMap (·.classes)).map fun e =>
        e.concealed (Visibility.hides setting e.name) := by
    rw [List.flatMap_map, List.map_flatMap]
    rfl
  have henums : (modules.map (Module.concealed setting id)).flatMap (·.enums) =
      (modules.flatMap (·.enums)).map fun e =>
        e.concealed (Visibility.hides setting e.name) := by
    rw [List.flatMap_map, List.map_flatMap]
    rfl
  -- a hidden entry is filtered out under the same name, and a visible one is as it was
  have hinterfaces : g.interfaces scopes (modules.map (Module.concealed setting id)) =
      g.interfaces scopes modules := by
    rw [interfaces, interfaces, hclasses, keepIf_map_of
      (fun entry => by rw [ClassEntry.name_concealed])
      (fun entry h => entry.concealed_of_isVisible (hg ▸ h))]
  have henums' : g.enums (modules.map (Module.concealed setting id)) = g.enums modules := by
    rw [Generator.enums, Generator.enums, henums, keepIf_map_of
      (fun entry => by rw [EnumEntry.name_concealed])
      (fun entry h => entry.concealed_of_isVisible (hg ▸ h))]
  rw [declarations, declarations, hinterfaces, henums']

/-! ## Models -/

/-- Hidden contents do not change where modules go. -/
theorem resolve_concealed {override : Json} (hg : g.moduleName = Naming.formatModule override)
    (model : Model) :
    g.resolve (model.concealed setting) = (g.resolve model).map fun resolution =>
      { resolution with
        groups := resolution.groups.map fun group =>
          (group.1, group.2.map (Module.concealed setting id)) } := by
  -- what a module is called does not depend on its contents
  have hmodule : ∀ m : Module, g.resolveModule (m.concealed setting Naming.interfaceName) =
      (g.resolveModule m).map fun entry =>
        ((entry.1.1, entry.1.2.concealed setting id), entry.2) := by
    intro m
    rw [resolveModule, resolveModule, hg]
    simp only [Naming.formatModule, Naming.prefixInterfaces_concealed]
    show (do
      let name ← (override.orElse m.name).asKey
      let source ← m.name.asKey
      .ok ((name, _), (source, name))) = _
    cases (override.orElse m.name).asKey with
    | error fault => rfl
    | ok name => cases m.name.asKey <;> rfl
  rw [resolve, resolve, Model.concealed, mapM_map_of hmodule]
  cases model.modules.mapM g.resolveModule with
  | error fault => rfl
  | ok resolved =>
    -- the groups get the concealed modules, and the names stay as they are
    have hgroups : (resolved.map fun entry =>
        ((entry.1.1, entry.1.2.concealed setting id), entry.2)).map (·.1) =
        (resolved.map (·.1)).map fun entry => (entry.1, entry.2.concealed setting id) := by
      rw [List.map_map, List.map_map]
      rfl
    have hnames : (resolved.map fun entry =>
        ((entry.1.1, entry.1.2.concealed setting id), entry.2)).map (·.2) =
        resolved.map (·.2) := by
      rw [List.map_map]
      rfl
    show Except.ok _ = Except.ok _
    rw [hgroups, hnames, Grouping.ofList_map, List.length_map]

/-- The text of a model shows nothing of its hidden entries. -/
theorem generate_concealed (hvisible : g.isVisible = Visibility.isVisible setting) {override : Json}
    (hg : g.moduleName = Naming.formatModule override) (model : Model) (output : Output) :
    g.generate (model.concealed setting) output = g.generate model output := by
  have hblocks : g.blocks (model.concealed setting) output = g.blocks model output := by
    rw [blocks, blocks, resolve_concealed hg]
    cases g.resolve model with
    | error fault => rfl
    | ok resolution =>
      show (do
        let blocks : List Block ← (resolution.groups.map fun (group : Json × List Module) =>
            (group.1, group.2.map (Module.concealed setting id))).mapM fun (name, modules) => do
          let declarations ← g.declarations resolution.scopes output modules
          .ok ({ name, declarations } : Block)
        .ok (blocks.filter fun block : Block => !block.declarations.isEmpty)) = _
      rw [List.mapM_map]
      simp only [Function.comp_def, declarations_concealed hvisible]
      rfl
  rw [generate, generate, hblocks]

end Generator

/-! ## Final declarations -/

/-- The text of what comes of a generation, or the cause of its failure. -/
def Outcome.code : Outcome → Except Fault String
  | .done generation => .ok generation.code
  | .failed cause => .error cause

namespace Generator

/-- Warnings and counts have no say in the text. -/
theorem code_outcome (g : Generator) (model : Model) (output : Output) :
    (g.outcome model output).code = (g.generate model output).map String.tidied := by
  have hgeneration : (g.generation model output).map (·.code) =
      (g.generate model output).map String.tidied := by
    rw [generation, warnings]
    cases hresolve : g.resolve model with
    | error fault =>
      -- a generation that cannot resolve its namespaces fails with that in either case
      rw [generate, blocks, hresolve]
      rfl
    | ok resolution =>
      cases g.generate model output <;> rfl
  rw [← hgeneration, outcome]
  cases g.generation model output <;> rfl

end Generator

/-- A text in its final form, or the cause for which there is none. -/
def finalCode (setting : Json) : Except Fault String → Except Fault (Except Fault String)
  | .error cause => .ok (.error cause)
  | .ok code => do
    let final ← Sweep.finishWith setting code
    .ok (.ok final)

/-- The final text of some symbols comes of that of their model. -/
theorem code_generateDeclarations (symbols : List TypeSymbol) (config : Option Config) :
    (generateDeclarations symbols config).map Outcome.code = (do
      let model ← Model.ofSymbols symbols
      let generator ← Generator.ofConfig? config
      finalCode (Config.markerOf config) ((generator.generate model {}).map String.tidied)) := by
  rw [generateDeclarations]
  cases Model.ofSymbols symbols with
  | error fault => rfl
  | ok model =>
    cases Generator.ofConfig? config with
    | error fault => rfl
    | ok generator =>
      simp only [bind, Except.bind, ← Generator.code_outcome]
      cases generator.outcome model {} with
      | failed cause => rfl
      | done generation =>
        simp only [Outcome.code, finalCode]
        cases Sweep.finishWith (Config.markerOf config) generation.code <;> rfl

/-- The generator for a configuration hides what its marker hides. -/
theorem Generator.isVisible_ofConfig? {config : Option Config}
    (h : Generator.ofConfig? config = .ok g) :
    g.isVisible = Visibility.isVisible (Config.markerOf config) ∧
      ∃ override, g.moduleName = Naming.formatModule override := by
  cases config with
  | none =>
    cases h
    exact ⟨rfl, .null, rfl⟩
  | some config =>
    obtain ⟨indent, -, h⟩ := bind_eq_ok h
    cases h
    exact ⟨rfl, config.outputNamespace, rfl⟩

/-- The final text of some symbols is that of what shows of them. -/
theorem code_generateDeclarations_shown {symbols : List TypeSymbol} {config : Option Config}
    (hapart : symbols.Pairwise TypeSymbol.Apart)
    (hconceals : ∀ s ∈ symbols, s.ConcealsKeys (Config.markerOf config)) :
    (generateDeclarations (symbols.map (TypeSymbol.shown (Config.markerOf config))) config).map
        Outcome.code =
      (generateDeclarations symbols config).map Outcome.code := by
  rw [code_generateDeclarations, code_generateDeclarations,
    Model.ofSymbols_shown hapart hconceals]
  cases Model.ofSymbols symbols with
  | error fault => rfl
  | ok model =>
    cases hgenerator : Generator.ofConfig? config with
    | error fault => rfl
    | ok generator =>
      obtain ⟨hvisible, override, hname⟩ := Generator.isVisible_ofConfig? hgenerator
      show finalCode _ ((generator.generate (model.concealed _) {}).map String.tidied) =
        finalCode _ _
      rw [Generator.generate_concealed hvisible hname]

/-- Symbols of which the same shows have the same final text, whatever their members that are not
exported and the contents of their hidden declarations are. -/
theorem generateDeclarations_of_alike {symbols symbols' : List TypeSymbol} {config : Option Config}
    (halike : List.Forall₂ (TypeSymbol.Alike (Config.markerOf config)) symbols symbols')
    (hapart : symbols.Pairwise TypeSymbol.Apart) (hapart' : symbols'.Pairwise TypeSymbol.Apart)
    (hconceals : ∀ s ∈ symbols, s.ConcealsKeys (Config.markerOf config))
    (hconceals' : ∀ s ∈ symbols', s.ConcealsKeys (Config.markerOf config)) :
    (generateDeclarations symbols config).map Outcome.code =
      (generateDeclarations symbols' config).map Outcome.code := by
  rw [← code_generateDeclarations_shown hapart hconceals, TypeSymbol.map_shown_eq halike,
    code_generateDeclarations_shown hapart' hconceals']

/-- A private member and a hidden interface may change without a trace. -/
theorem generateDeclarations_of_alike_hidden :
    let shared : Member := { name := .str "Total", type := .ofPrimitive .int }
    let secret : Member :=
      { name := .str "Pin", type := .named "Key" .classType (.str "Vault") [], isPublic := false }
    let counter : Member := { name := .str "Count", type := .ofPrimitive .int, isStatic := true }
    let account (members : List Member) : TypeSymbol :=
      { name := "Account", scope := .str "Bank", members }
    let holder (members : List Member) : TypeSymbol :=
      { name := "GuidHolder", scope := .str "Bank", members }
    let symbols := [account [secret, shared], holder [shared]]
    let symbols' := [account [shared, counter], holder [secret]]
    let text := "declare namespace Bank \x7b\n    export interface IAccount \x7b\n" ++
      "        total: number;\n    \x7d\n\x7d"
    (generateDeclarations symbols none).map Outcome.code = .ok (.ok text) ∧
      (generateDeclarations symbols' none).map Outcome.code = .ok (.ok text) := by
  intro shared secret counter account holder symbols symbols' text
  have htext : (generateDeclarations symbols none).map Outcome.code = .ok (.ok text) := by
    decide +kernel
  have hname : Visibility.hides (.str defaultMarker)
      (Naming.interfaceName (Arity.strip "GuidHolder")) = true := by decide +kernel
  have hhidden : ∀ members, (holder members).isConcealed (.str defaultMarker) = true := by
    intro members
    have hclass : (holder members).isEnum = false := by rfl
    rw [TypeSymbol.isConcealed, TypeSymbol.declaredName, hclass, if_neg Bool.false_ne_true,
      TypeSymbol.simpleName]
    exact hname
  have halike : List.Forall₂ (TypeSymbol.Alike (Config.markerOf none)) symbols symbols' := by
    refine .cons ⟨rfl, rfl, rfl, rfl, fun _ => rfl, fun _ => rfl⟩ (.cons ?_ .nil)
    exact ⟨rfl, rfl, rfl, rfl, fun h => absurd ((hhidden _).symm.trans h) (by decide), fun _ => rfl⟩
  have hkeyed : ∀ s ∈ symbols ++ symbols', s.IsKeyed := by decide
  obtain ⟨hkeyed, hkeyed'⟩ := List.forall_mem_append.mp hkeyed
  refine ⟨htext, ?_⟩
  rw [← htext]
  exact (generateDeclarations_of_alike halike (by decide) (by decide)
    (fun s hs => (hkeyed s hs).concealsKeys) fun s hs => (hkeyed' s hs).concealsKeys).symm

/-- A private member whose name is a list cannot be told apart from others, so a class with it has no
declaration, and one without it has. -/
theorem generateDeclarations_concealed_list :
    let secret : Member :=
      { name := .arr [.str "x"], type := .unknown "object" false, isPublic := false }
    let box (members : List Member) : TypeSymbol := { name := "A", scope := .str "N", members }
    List.Forall₂ (TypeSymbol.Alike (Config.markerOf none)) [box [secret]] [box []] ∧
      [box [secret]].Pairwise TypeSymbol.Apart ∧ [box []].Pairwise TypeSymbol.Apart ∧
      (generateDeclarations [box [secret]] none).map Outcome.code ≠
        (generateDeclarations [box []] none).map Outcome.code := by
  intro secret box
  refine ⟨.cons ⟨rfl, rfl, rfl, rfl, fun _ => rfl, fun _ => rfl⟩ .nil, by decide, by decide, ?_⟩
  decide +kernel

end Ambient
