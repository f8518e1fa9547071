/-
  Ambient.Proofs.Declaration.Emission

  What generation emits. A plan fixes the choices of a run: how modules are renamed, which
  declarations are visible and which kinds of them are asked for. The blocks of a model under a plan
  are told by filters over the model (`Plan.blocks`), and a generator that follows the plan makes
  exactly these, without loss, repetition or change of order.
-/
import Ambient.Declaration.Emission
import Ambient.Proofs.Declaration.Layout
import Ambient.Proofs.Declaration.TypeText
import Ambient.Proofs.Grouping
import Ambient.Proofs.Keeping

namespace Ambient

/-! ## Declared entries -/

/-- A property under its final name with its final type. -/
def Property.declared (scopes : Scopes) (p : Property) : Json × String :=
  (.str (Naming.propertyText p.name.text),
    Naming.memberType p ((TypeExpr.ofRef p.type).text scopes))

/-- The interface of a class entry, with all properties of the entry in order. -/
def ClassEntry.declaration (scopes : Scopes) (entry : ClassEntry) : Declaration :=
  .interface (Naming.interfaceName entry.name) entry.parameters
    (entry.properties.map (·.declared scopes))

/-- The declaration of an enum entry in a style, with all members of the entry in order. -/
def EnumEntry.declaration (style : EnumStyle) (entry : EnumEntry) : Declaration :=
  match style with
  | .numeric => .enum entry.name (entry.members.map fun m => (m.name, m.value))
  | .string =>
    .enum entry.name (entry.members.map fun m => (m.name, .str (Declaration.literal m.name.text)))
  | .stringLiteral => .union entry.name entry.members

/-! ## Plans -/

/-- The choices of a run. -/
structure Plan where
  style : EnumStyle := .numeric
  indent : String := "    "
  /-- What the namespace is called that a module goes to. -/
  rename : Module → String
  /-- Whether a declaration is seen under the name that it would be declared with. -/
  visible : String → Bool
  output : Output := {}

namespace Plan

variable (plan : Plan) (model : Model)

/-- The generator that renames modules, prefixes interfaces and hides what the plan hides. -/
def generator : Generator where
  enumStyle := plan.style
  indent := .str plan.indent
  moduleName m := (.str (plan.rename m), Naming.prefixInterfaces m)
  isVisible name := .ok (plan.visible name)

/-- The distinct names of the namespaces, in order of first appearance. -/
def names : List String :=
  (model.modules.map plan.rename).eraseDups

/-- All modules that go to a namespace, in order. -/
def modulesIn (name : String) : List Module :=
  model.modules.filter (plan.rename · == name)

/-- What the namespaces of the model are called. -/
def scopes : Scopes where
  names := model.modules.map fun m => (m.name, .str (plan.rename m))
  isSingle := (plan.names model).length == 1

/-- The visible classes of a namespace, in order. -/
def classes (name : String) : List ClassEntry :=
  ((plan.modulesIn model name).flatMap (·.classes)).filter fun entry =>
    plan.visible (Naming.interfaceName entry.name)

/-- The visible enums of a namespace, in order. -/
def enums (name : String) : List EnumEntry :=
  ((plan.modulesIn model name).flatMap (·.enums)).filter fun entry => plan.visible entry.name

/-- The declarations of a namespace: its visible classes and then its visible enums, each kind if it
is asked for. -/
def declarations (name : String) : List Declaration :=
  (if plan.output.properties then
    (plan.classes model name).map (·.declaration (plan.scopes model)) else []) ++
  (if plan.output.enums then (plan.enums model name).map (·.declaration plan.style) else [])

/-- The blocks of a model: one for each name of a namespace that declares something. -/
def blocks : List Block :=
  ((plan.names model).map fun name =>
    { name := .str name, declarations := plan.declarations model name : Block }).filter
      (!·.declarations.isEmpty)

end Plan

/-! ## Standard parts of a generator -/

namespace Generator

variable {g : Generator} {model : Model}

/-- The groups are the distinct names that modules are given, in order of first appearance, each with
the modules that go there as they are declared. -/
theorem resolve_format (format : Module → String × Module)
    (hformat : ∀ m ∈ model.modules, g.moduleName m = (.str (format m).1, (format m).2))
    (hkeys : ∀ m ∈ model.modules, m.name.isKey = true) :
    g.resolve model = .ok {
      groups := (model.modules.map fun m => (format m).1).eraseDups.map fun name =>
        (.str name, (model.modules.filter fun m => (format m).1 == name).map fun m => (format m).2)
      scopes := {
        names := model.modules.map fun m => (m.name, .str (format m).1)
        isSingle := (model.modules.map fun m => (format m).1).eraseDups.length == 1 } } := by
  have hstep : ∀ m ∈ model.modules, g.resolveModule m =
      .ok ((.str (format m).1, (format m).2), (m.name, .str (format m).1)) := by
    intro m hm
    simp only [resolveModule, hformat m hm, Json.asKey, hkeys m hm]
    rfl
  have hgroups := Grouping.ofList_str (model.modules.map format)
  simp only [List.map_map, Function.comp_def, List.filter_map] at hgroups
  unfold resolve
  rw [mapM_ok hstep]
  simp only [bind, Except.bind, List.map_map, Function.comp_def, hgroups, List.length_map]

/-- Without templates every form is the standard one. -/
theorem blockText_standard (htemplates : g.templates = {}) {indent : String}
    (hindent : g.indent = .str indent) (b : Block) : g.blockText b = .ok (b.text indent) := by
  have hdeclaration : ∀ d : Declaration, g.declarationText d = .ok (d.text indent) := by
    intro d
    rw [declarationText, htemplates, Template.Store.renderOr_empty, hindent, Json.text_str]
  unfold blockText
  rw [mapM_ok fun d _ => hdeclaration d]
  simp only [bind, Except.bind, htemplates, Template.Store.renderOr_empty]
  simp only [wrap, hindent]
  rfl

end Generator

/-! ## Generators that follow a plan -/

/-- A generator makes the choices of a plan on the modules of a model. -/
structure Generator.Follows (g : Generator) (plan : Plan) (model : Model) : Prop where
  enumStyle : g.enumStyle = plan.style
  indent : g.indent = .str plan.indent
  identifier : g.identifier = Naming.propertyName
  memberType : g.memberType = Naming.memberType
  moduleName : ∀ m ∈ model.modules,
    g.moduleName m = (.str (plan.rename m), Naming.prefixInterfaces m)
  isVisible : ∀ name, g.isVisible name = .ok (plan.visible name)
  templates : g.templates = {}

theorem Plan.generator_follows (plan : Plan) (model : Model) :
    plan.generator.Follows plan model where
  enumStyle := rfl
  indent := rfl
  identifier := rfl
  memberType := rfl
  moduleName _ _ := rfl
  isVisible _ := rfl
  templates := rfl

/-- The plan by which all modules go to one namespace, where one is given, and otherwise each to its
own. -/
def Plan.standard (style : EnumStyle) (indent : String) (override : Json)
    (visible : String → Bool) (output : Output) : Plan :=
  { style, indent, rename := fun m => (override.orElse m.name).text, visible, output }

section Standard

variable {rule : NameRule} {override : Json} {model : Model}

/-- What a module is called in the standard way is an allowed name. -/
theorem exists_standard_name (hoverride : rule.admitsOptional override = true)
    (hmodel : model.obeys rule = true) {m : Module} (hm : m ∈ model.modules) :
    ∃ s, override.orElse m.name = .str s ∧ rule.scope s = true := by
  unfold Json.orElse
  split
  · rename_i hgiven
    exact NameRule.admitsScope_iff.mp (NameRule.admitsScope_of_isTruthy hoverride hgiven)
  · exact Module.name_eq_str (Model.obeys_of_mem hmodel hm)

theorem Plan.standard_follows {style : EnumStyle} {indent : String} {visible : String → Bool}
    {output : Output} {isVisible : String → Except Fault Bool}
    (hvisible : ∀ name, isVisible name = .ok (visible name))
    (hoverride : rule.admitsOptional override = true) (hmodel : model.obeys rule = true) :
    ({ enumStyle := style, indent := .str indent, moduleName := Naming.formatModule override,
       isVisible } : Generator).Follows (Plan.standard style indent override visible output)
      model where
  enumStyle := rfl
  indent := rfl
  identifier := rfl
  memberType := rfl
  moduleName m hm := by
    obtain ⟨s, hs, -⟩ := exists_standard_name hoverride hmodel hm
    simp only [Naming.formatModule, Plan.standard, hs, Json.text_str]
  isVisible := hvisible
  templates := rfl

theorem Plan.standard_scope {style : EnumStyle} {indent : String} {visible : String → Bool}
    {output : Output} (hoverride : rule.admitsOptional override = true)
    (hmodel : model.obeys rule = true) :
    ∀ m ∈ model.modules,
      rule.scope ((Plan.standard style indent override visible output).rename m) = true := by
  intro m hm
  obtain ⟨s, hs, hrule⟩ := exists_standard_name hoverride hmodel hm
  simpa only [Plan.standard, hs, Json.text_str] using hrule

end Standard

namespace Generator.Follows

variable {g : Generator} {plan : Plan} {model : Model} {rule : NameRule}

/-- The groups are the namespaces of the plan, each with its modules as they are declared. -/
theorem resolve (h : g.Follows plan model) (hmodel : model.obeys rule = true) :
    g.resolve model = .ok {
      groups := (plan.names model).map fun name =>
        (.str name, (plan.modulesIn model name).map Naming.prefixInterfaces)
      scopes := plan.scopes model } := by
  have hkeys : ∀ m ∈ model.modules, m.name.isKey = true := by
    intro m hm
    obtain ⟨s, hs, -⟩ := Module.name_eq_str (Model.obeys_of_mem hmodel hm)
    rw [hs]
    rfl
  rw [resolve_format (fun m => (plan.rename m, Naming.prefixInterfaces m)) h.moduleName hkeys]
  rfl

theorem property (h : g.Follows plan model) {scopes : Scopes} {p : Property}
    (hp : p.obeys rule = true) : g.property scopes p = .ok (p.declared scopes) := by
  simp only [Property.obeys, Bool.and_eq_true] at hp
  obtain ⟨s, hs, -⟩ := NameRule.admits_iff.mp hp.1
  have hname : Naming.propertyName p = .ok (.str (Naming.propertyText s)) := by
    rw [Naming.propertyName, hs]
  simp only [Generator.property, h.identifier, h.memberType, hname, TypeRef.text?_of_obeys hp.2]
  simp [Property.declared, hs, bind, Except.bind]

theorem interface (h : g.Follows plan model) {scopes : Scopes} {entry : ClassEntry}
    (he : entry.obeys rule = true) :
    g.interface scopes (entry.renamed (Naming.interfaceName entry.name)) =
      .ok (entry.declaration scopes) := by
  simp only [ClassEntry.obeys, Bool.and_eq_true] at he
  have hproperties : entry.properties.mapM (g.property scopes) =
      .ok (entry.properties.map (·.declared scopes)) :=
    mapM_ok fun p hp => h.property (List.all_eq_true.mp he.2 p hp)
  unfold Generator.interface
  simp only [ClassEntry.renamed, hproperties]
  rfl

theorem enum (h : g.Follows plan model) (entry : EnumEntry) :
    g.enum entry = entry.declaration plan.style := by
  unfold Generator.enum EnumEntry.declaration
  cases hstyle : plan.style <;> simp only [h.enumStyle, hstyle]

/-- The interfaces of a namespace are those of its visible classes. -/
theorem interfaces (h : g.Follows plan model) (hmodel : model.obeys rule = true) (name : String) :
    g.interfaces (plan.scopes model) ((plan.modulesIn model name).map Naming.prefixInterfaces) =
      .ok ((plan.classes model name).map (·.declaration (plan.scopes model))) := by
  -- prefixing a module renames each of its classes
  have hprefixed : ((plan.modulesIn model name).map Naming.prefixInterfaces).flatMap (·.classes) =
      ((plan.modulesIn model name).flatMap (·.classes)).map fun entry =>
        entry.renamed (Naming.interfaceName entry.name) := by
    rw [List.flatMap_map, List.map_flatMap]
    rfl
  have hclasses : ∀ entry ∈ plan.classes model name, entry.obeys rule = true := by
    intro entry hentry
    obtain ⟨m, hm, he⟩ := List.mem_flatMap.mp (List.mem_filter.mp hentry).1
    exact Module.class_obeys (Model.obeys_of_mem hmodel (List.mem_filter.mp hm).1) he
  -- what is kept is rendered as the plan declares it
  have hrender : ((plan.classes model name).map fun entry =>
        entry.renamed (Naming.interfaceName entry.name)).mapM (g.interface (plan.scopes model)) =
      .ok ((plan.classes model name).map (·.declaration (plan.scopes model))) := by
    rw [List.mapM_map]
    exact mapM_ok fun entry he => h.interface (hclasses entry he)
  unfold Generator.interfaces
  rw [hprefixed, keepIf_ok fun entry _ => h.isVisible entry.name, List.filter_map]
  exact hrender

/-- The declared enums of a namespace are its visible ones. -/
theorem enums (h : g.Follows plan model) (name : String) :
    g.enums ((plan.modulesIn model name).map Naming.prefixInterfaces) =
      .ok ((plan.enums model name).map (·.declaration plan.style)) := by
  have hprefixed : ((plan.modulesIn model name).map Naming.prefixInterfaces).flatMap (·.enums) =
      (plan.modulesIn model name).flatMap (·.enums) := by
    rw [List.flatMap_map]
    rfl
  have hrender : (plan.enums model name).map g.enum =
      (plan.enums model name).map (·.declaration plan.style) :=
    List.map_congr_left fun entry _ => h.enum entry
  unfold Generator.enums
  rw [hprefixed, keepIf_ok fun entry _ => h.isVisible entry.name]
  exact congrArg Except.ok hrender

theorem declarations (h : g.Follows plan model) (hmodel : model.obeys rule = true) (name : String) :
    g.declarations (plan.scopes model) plan.output
        ((plan.modulesIn model name).map Naming.prefixInterfaces) =
      .ok (plan.declarations model name) := by
  unfold Generator.declarations
  rw [h.interfaces hmodel, h.enums]
  unfold Plan.declarations
  cases plan.output.properties <;> cases plan.output.enums <;> rfl

/-- The blocks that are generated are those of the plan. -/
theorem blocks (h : g.Follows plan model) (hmodel : model.obeys rule = true) :
    g.blocks model plan.output = .ok (plan.blocks model) := by
  unfold Generator.blocks
  rw [h.resolve hmodel]
  simp only [bind, Except.bind]
  rw [List.mapM_map, mapM_ok (f := fun name =>
    { name := .str name, declarations := plan.declarations model name : Block })]
  · rfl
  · intro name _
    simp only [Function.comp_apply, h.declarations hmodel]

/-- The text is that of the blocks of the plan. -/
theorem generate (h : g.Follows plan model) (hmodel : model.obeys rule = true) :
    g.generate model plan.output =
      .ok (joinBlocks ((plan.blocks model).map (Block.text plan.indent))) := by
  unfold Generator.generate
  rw [h.blocks hmodel]
  simp only [bind, Except.bind]
  rw [mapM_ok fun b _ => blockText_standard h.templates h.indent b]

end Generator.Follows

/-! ## Obedience of what is emitted -/

namespace Plan

variable {plan : Plan} {model : Model} {rule : NameRule} {p : String → Prop}

theorem scopes_obey
    (hnames : ∀ m ∈ model.modules, rule.scope (plan.rename m) = true) :
    (plan.scopes model).obeys rule = true := by
  rw [Scopes.obeys, scopes, List.all_map, List.all_eq_true]
  exact fun m hm => hnames m hm

theorem memberType_of_closed (hclosed : TypeExpr.Closed rule p) {property : Property} {t : String}
    (ht : p t) : p (Naming.memberType property t) := by
  have hhost : p (Naming.hostType t) := by
    unfold Naming.hostType
    split
    · exact hclosed.word "string" (by decide)
    · split
      · exact hclosed.word "Date" (by decide)
      · exact ht
  unfold Naming.memberType
  split
  · exact hclosed.nullable hhost
  · exact hhost

theorem class_obeys (hclosed : TypeExpr.Closed rule p) (hstable : rule.Stable) {scopes : Scopes}
    (hscopes : scopes.obeys rule = true) {entry : ClassEntry} (he : entry.obeys rule = true) :
    (entry.declaration scopes).Obeys rule p := by
  simp only [ClassEntry.obeys, Bool.and_eq_true] at he
  refine ⟨hstable.interfaceName he.1.1, List.all_eq_true.mp he.1.2, ?_⟩
  -- the name of a property may start in lower case now, and its type is a text of the model
  intro q hq
  obtain ⟨property, hproperty, rfl⟩ := List.mem_map.mp hq
  have hobeys := List.all_eq_true.mp he.2 property hproperty
  simp only [Property.obeys, Bool.and_eq_true] at hobeys
  obtain ⟨s, hs, hname⟩ := NameRule.admits_iff.mp hobeys.1
  constructor
  · rw [Property.declared, hs]
    exact hstable.propertyText hname
  · exact memberType_of_closed hclosed (TypeExpr.text_of_closed hclosed hstable hscopes _
      (TypeExpr.ofRef_obeys property.type hobeys.2))

theorem enum_obeys {entry : EnumEntry} (he : entry.obeys rule = true) (style : EnumStyle) :
    (entry.declaration style).Obeys rule p := by
  simp only [EnumEntry.obeys, Bool.and_eq_true] at he
  have hmember : ∀ m ∈ entry.members, rule.admits m.name = true ∧ ∃ n, m.value = .int n := by
    intro m hm
    have := List.all_eq_true.mp he.2 m hm
    simp only [EnumMember.obeys, Bool.and_eq_true, beq_iff_eq] at this
    refine ⟨this.1, ?_⟩
    cases hv : m.value with
    | int n => exact ⟨n, rfl⟩
    | _ => rw [hv] at this; cases this.2
  -- the values are integers, or made of the names
  cases style with
  | numeric =>
    refine ⟨he.1, fun q hq => ?_⟩
    obtain ⟨m, hm, rfl⟩ := List.mem_map.mp hq
    exact ⟨(hmember m hm).1, .inl (hmember m hm).2⟩
  | string =>
    refine ⟨he.1, fun q hq => ?_⟩
    obtain ⟨m, hm, rfl⟩ := List.mem_map.mp hq
    obtain ⟨s, hs, hname⟩ := NameRule.admits_iff.mp (hmember m hm).1
    exact ⟨(hmember m hm).1, .inr ⟨s, hname, by rw [hs, Json.text_str]⟩⟩
  | stringLiteral => exact ⟨he.1, fun m hm => (hmember m hm).1⟩

/-- The emitted blocks of an obedient model are obedient. -/
theorem blocks_obey (hclosed : TypeExpr.Closed rule p) (hstable : rule.Stable)
    (hmodel : model.obeys rule = true)
    (hnames : ∀ m ∈ model.modules, rule.scope (plan.rename m) = true) :
    ∀ b ∈ plan.blocks model, b.Obeys rule p := by
  intro b hb
  obtain ⟨name, hname, rfl⟩ := List.mem_map.mp (List.mem_filter.mp hb).1
  obtain ⟨m, hm, rfl⟩ := List.mem_map.mp (List.mem_eraseDups.mp hname)
  refine ⟨hnames m hm, ?_⟩
  -- classes come before enums, and both are entries of modules of the model
  intro d hd
  have hmodule : ∀ n ∈ plan.modulesIn model (plan.rename m), n.obeys rule = true :=
    fun n hn => Model.obeys_of_mem hmodel (List.mem_filter.mp hn).1
  rcases List.mem_append.mp hd with hclass | henum
  · split at hclass
    · obtain ⟨entry, hentry, rfl⟩ := List.mem_map.mp hclass
      obtain ⟨n, hn, he⟩ := List.mem_flatMap.mp (List.mem_filter.mp hentry).1
      exact class_obeys hclosed hstable (scopes_obey hnames)
        (Module.class_obeys (hmodule n hn) he)
    · cases hclass
  · split at henum
    · obtain ⟨entry, hentry, rfl⟩ := List.mem_map.mp henum
      obtain ⟨n, hn, he⟩ := List.mem_flatMap.mp (List.mem_filter.mp hentry).1
      exact enum_obeys (Module.enum_obeys (hmodule n hn) he) plan.style
    · cases henum

end Plan

/-! ## Stricter plans -/

/-- A block that declares nothing with all of its declarations declares nothing with some. -/
theorem Block.filter_keep (test : String → Bool) (blocks : List Block) :
    ((blocks.filter (!·.declarations.isEmpty)).map (Block.keep test)).filter
        (!·.declarations.isEmpty) =
      (blocks.map (Block.keep test)).filter (!·.declarations.isEmpty) := by
  induction blocks with
  | nil => rfl
  | cons b rest ih =>
    cases hb : b.declarations with
    | nil =>
      have hnone : (b.keep test).declarations = [] := by
        rw [Block.keep, hb]
        rfl
      rw [List.filter_cons_of_neg (by simp [hb]), ih, List.map_cons,
        List.filter_cons_of_neg (by simp [hnone])]
    | cons d ds =>
      rw [List.filter_cons_of_pos (by simp [hb]), List.map_cons, List.map_cons, List.filter_cons,
        List.filter_cons, ih]

namespace Plan

variable (plan : Plan) (model : Model)

/-- The plan that shows only what passes a test besides. -/
def restrict (test : String → Bool) : Plan :=
  { plan with visible := fun name => plan.visible name && test name }

theorem declarations_restrict (test : String → Bool) (name : String) :
    (plan.restrict test).declarations model name =
      (plan.declarations model name).filter fun d => test d.name := by
  have hclasses : ((plan.classes model name).map (·.declaration (plan.scopes model))).filter
        (fun d => test d.name) =
      ((plan.restrict test).classes model name).map (·.declaration (plan.scopes model)) := by
    rw [List.filter_map]
    unfold classes
    rw [List.filter_filter]
    refine congrArg (List.map _) (List.filter_congr fun entry _ => ?_)
    exact Bool.and_comm _ _
  -- an enum is tested under its own name, whatever form it is declared in
  have henums : ((plan.enums model name).map (·.declaration plan.style)).filter
        (fun d => test d.name) =
      ((plan.restrict test).enums model name).map (·.declaration plan.style) := by
    rw [List.filter_map]
    unfold enums
    rw [List.filter_filter]
    refine congrArg (List.map _) (List.filter_congr fun entry _ => ?_)
    show (test (entry.declaration plan.style).name && plan.visible entry.name) =
      (plan.visible entry.name && test entry.name)
    have hname : (entry.declaration plan.style).name = entry.name := by
      unfold EnumEntry.declaration
      cases plan.style <;> rfl
    rw [hname, Bool.and_comm]
  show (if plan.output.properties then ((plan.restrict test).classes model name).map
      (·.declaration (plan.scopes model)) else []) ++
    (if plan.output.enums then ((plan.restrict test).enums model name).map
      (·.declaration plan.style) else []) = _
  rw [declarations, List.filter_append, ← hclasses, ← henums]
  cases plan.output.properties <;> cases plan.output.enums <;> rfl

/-- What a plan hides besides is taken out of its blocks, and blocks that are left without
declarations go too. -/
theorem blocks_restrict (test : String → Bool) :
    (plan.restrict test).blocks model =
      ((plan.blocks model).map (Block.keep test)).filter (!·.declarations.isEmpty) := by
  unfold blocks
  rw [Block.filter_keep, List.map_map]
  have hblocks : ((plan.restrict test).names model).map (fun name =>
        ({ name := .str name
           declarations := (plan.restrict test).declarations model name } : Block)) =
      (plan.names model).map (Block.keep test ∘ fun name =>
        ({ name := .str name, declarations := plan.declarations model name } : Block)) := by
    refine List.map_congr_left fun name _ => ?_
    rw [declarations_restrict]
    rfl
  rw [hblocks]

end Plan

/-! ## The text, line by line -/

/-- Writing types makes no line breaks. -/
theorem TypeExpr.closed_notMem_break {rule : NameRule} {c : Char} (hc : Declaration.IsBreak c)
    (hname : ∀ s, rule.name s = true → c ∉ s.toList)
    (hscope : ∀ s, rule.scope s = true → c ∉ s.toList) :
    TypeExpr.Closed rule fun t => c ∉ t.toList := by
  have hjoin : ∀ {ts : List String}, (∀ t ∈ ts, c ∉ t.toList) →
      c ∉ (String.joinWith ", " ts).toList := fun hts =>
    String.notMem_joinWith (by rcases hc with rfl | rfl <;> decide) hts
  -- the words and signs that types are made of hold no break
  constructor
  case word => rcases hc with rfl | rfl <;> decide
  case name => exact fun h => hname _ h
  case array =>
    intro t ht
    rcases hc with rfl | rfl <;> simpa using ht
  case tuple =>
    intro ts hts
    have := hjoin hts
    rcases hc with rfl | rfl <;> simpa using this
  case map =>
    intro k v hk hv
    rcases hc with rfl | rfl <;> simp [hk, hv]
  case applied =>
    intro n ts hn hts
    have := hjoin hts
    rcases hc with rfl | rfl <;> simp [hn, this]
  case qualified =>
    intro s t hs ht
    have := hscope s hs
    rcases hc with rfl | rfl <;> simp [this, ht]
  case nullable =>
    intro t ht
    rcases hc with rfl | rfl <;> simpa using ht

/-- Generation loses, repeats and reorders nothing: the text is that of the blocks of the plan, line
by line, with a blank line between each two and a line break at the end. -/
theorem Plan.generate_eq_lines (plan : Plan) (model : Model)
    (hmodel : model.obeys .oneLine = true) (hindent : '\n' ∉ plan.indent.toList)
    (hnames : ∀ m ∈ model.modules, '\n' ∉ (plan.rename m).toList) :
    plan.generator.generate model plan.output =
      .ok (if (plan.blocks model).isEmpty then "" else
        String.joinWith "\n\n" ((plan.blocks model).map fun b =>
          String.joinWith "\n" (b.lines plan.indent)) ++ "\n") := by
  have hclosed : TypeExpr.Closed .oneLine fun t => '\n' ∉ t.toList :=
    TypeExpr.closed_notMem_break (.inl rfl) (fun s hs => NameRule.oneLine_name_iff.mp hs)
      (fun s hs => NameRule.oneLine_name_iff.mp hs)
  have hobey := Plan.blocks_obey hclosed NameRule.oneLine_stable hmodel
    fun m hm => NameRule.oneLine_name_iff.mpr (hnames m hm)
  -- a text that is indented line by line is the row of the indented lines
  have hlines : (plan.blocks model).map (Block.text plan.indent) =
      (plan.blocks model).map fun b => String.joinWith "\n" (b.lines plan.indent) := by
    refine List.map_congr_left fun b hb => Block.text_eq_lines fun d hd => ?_
    exact Declaration.break_notMem_lines (fun s hs => NameRule.oneLine_name_iff.mp hs) (.inl rfl)
      (fun t ht => ht) (by simp) hindent ((hobey b hb).2 d hd)
  rw [(plan.generator_follows model).generate hmodel, hlines, joinBlocks, List.isEmpty_map]

/-- Two modules that go to one namespace share a block, classes before enums. -/
theorem Plan.generate_eq_lines_merged :
    let plan : Plan := { rename := fun _ => "App", visible := fun name => name != "IDraft" }
    let user : ClassEntry :=
      { name := "User", properties := [{ name := .str "Name", type := .ofPrimitive .string }] }
    let color : EnumEntry :=
      { name := "Color"
        members := [{ name := .str "Red", value := .int 0 },
          { name := .str "Blue", value := .int 4 }] }
    let model : Model :=
      { modules := [{ name := .str "A", enums := [color] },
          { name := .str "B", classes := [{ name := "Draft" }, user] }] }
    plan.generator.generate model plan.output = .ok ("declare namespace App \x7b\n" ++
      "    export interface IUser \x7b\n        name: string;\n    \x7d\n" ++
      "    export enum Color \x7b\n        Red = 0,\n        Blue = 4\n    \x7d\n\x7d\n") := by
  intro plan user color model
  rw [Plan.generate_eq_lines plan model (by decide) (by decide) (by decide)]
  decide +kernel

end Ambient
