/-
  Ambient.Proofs.Declaration.Collisions

  Warnings about names that are declared twice. They are told by positions: a name of a namespace is
  warned about once for each time that it stands behind itself (`again`). The warnings go through the
  modules one by one, while emission takes the classes of all modules before their enums and leaves
  out what is hidden; both go through the same names, so a model without such a warning is written
  with every namespace once and with distinct names in it (`warnings_collisions`).
-/
import Ambient.Declaration.Warnings
import Ambient.Proofs.Declaration.Emission
import Ambient.Proofs.Declaration.References
import Mathlib.Data.List.Perm.Basic

namespace Ambient

/-! ## Names that come again -/

/-- The names that stand behind themselves, once for each time. -/
def again (names : List String) : List String :=
  (names.zipIdx.filter fun (name, place) => (names.take place).contains name).map (·.1)

theorem again_append_singleton (names : List String) (last : String) :
    again (names ++ [last]) = again names ++ if last ∈ names then [last] else [] := by
  -- what stands before a name of the front is the same with and without the last name
  have hfront : (names.zipIdx.filter fun (name, place) =>
        ((names ++ [last]).take place).contains name) =
      names.zipIdx.filter fun (name, place) => (names.take place).contains name := by
    refine List.filter_congr fun ⟨name, place⟩ hmem => ?_
    have hplace : place < names.length := by simpa using List.snd_lt_of_mem_zipIdx hmem
    show ((names ++ [last]).take place).contains name = (names.take place).contains name
    rw [List.take_append_of_le_length (Nat.le_of_lt hplace)]
  rw [again, List.zipIdx_append, List.filter_append, hfront, List.map_append, ← again]
  congr 1
  by_cases hlast : last ∈ names <;> simp [hlast]

theorem repeated_append_singleton (seen names : List String) (last : String) :
    repeated seen (names ++ [last]) =
      repeated seen names ++ if last ∈ seen ∨ last ∈ names then [last] else [] := by
  induction names generalizing seen with
  | nil =>
    by_cases hlast : last ∈ seen <;> simp [repeated, hlast]
  | cons name rest ih =>
    rw [List.cons_append, repeated, repeated]
    by_cases hname : name ∈ seen
    · -- a name that was seen before adds nothing to what was seen
      have hseen : (last ∈ seen ∨ last ∈ name :: rest) ↔ (last ∈ seen ∨ last ∈ rest) := by
        rw [List.mem_cons]
        constructor
        · rintro (h | rfl | h)
          exacts [.inl h, .inl hname, .inr h]
        · rintro (h | h)
          exacts [.inl h, .inr (.inr h)]
      simp only [List.contains_iff_mem.mpr hname, if_true, ih, hseen, List.cons_append]
    · have hseen : (last ∈ seen ∨ last ∈ name :: rest) ↔ (last ∈ name :: seen ∨ last ∈ rest) := by
        simp only [List.mem_cons]
        tauto
      simp only [List.contains_eq_mem, hname, decide_false, Bool.false_eq_true, if_false, ih, hseen]

/-- The walk that remembers what it has seen meets the names that stand behind themselves. -/
theorem repeated_eq_again (names : List String) : repeated [] names = again names := by
  induction names using List.reverseRecOn with
  | nil => rfl
  | append_singleton names last ih =>
    rw [repeated_append_singleton, again_append_singleton, ih]
    simp

/-- No name comes again exactly if the names are distinct. -/
theorem again_eq_nil_iff (names : List String) : again names = [] ↔ names.Nodup := by
  induction names using List.reverseRecOn with
  | nil => simp [again]
  | append_singleton names last ih =>
    rw [again_append_singleton, List.append_eq_nil_iff, ih, List.nodup_append]
    by_cases hlast : last ∈ names <;> simp [hlast]
    exact fun _ name hname heq => hlast (heq ▸ hname)

/-! ## Namespaces of a model -/

namespace Model

variable (model : Model) (format : Module → String × Module)

/-- The namespaces that the modules go to, in order of first appearance. -/
def scopesBy : List String :=
  (model.modules.map fun m => (format m).1).eraseDups

/-- The modules that go to a namespace, in order, as they are declared. -/
def modulesBy (scope : String) : List Module :=
  (model.modules.filter fun m => (format m).1 == scope).map fun m => (format m).2

/-- The names of all entries of a namespace: module by module, classes before enums. -/
def entryNamesBy (scope : String) : List String :=
  (model.modulesBy format scope).flatMap Module.entryNames

theorem nodup_scopesBy : (model.scopesBy format).Nodup := by
  have htells : Distinct.Tells (· == ·) id (model.modules.map fun m => (format m).1) :=
    fun a _ b _ => by simp
  have hdistinct := Distinct.nodup_images htells
  rwa [List.map_id] at hdistinct

end Model

/-! ## Warnings -/

/-- Whether a warning is about a name that is declared again. -/
def isCollisionWarning (warning : String) : Bool :=
  "Duplicate declaration '".toList.isPrefixOf warning.toList

theorem isCollisionWarning_duplicateWarning (scope : Json) (name : String) :
    isCollisionWarning (duplicateWarning scope name) = true := by
  have hprefix : ∀ front rest : String, front.toList.isPrefixOf (front ++ rest).toList = true := by
    intro front rest
    rw [String.toList_append, List.isPrefixOf_iff_prefix]
    exact List.prefix_append _ _
  unfold duplicateWarning
  rw [String.append_assoc, String.append_assoc, String.append_assoc]
  exact hprefix _ _

/-- Warnings about empty entries begin in another way. -/
theorem filter_emptyWarnings (m : Module) : m.emptyWarnings.filter isCollisionWarning = [] := by
  rw [List.filter_eq_nil_iff]
  intro warning hwarning
  rcases List.mem_append.mp hwarning with hclass | henum
  · obtain ⟨entry, -, rfl⟩ := List.mem_map.mp hclass
    simp [isCollisionWarning, String.toList_append]
  · obtain ⟨entry, -, rfl⟩ := List.mem_map.mp henum
    simp [isCollisionWarning, String.toList_append]

namespace Model

variable {model : Model} {format : Module → String × Module}

variable (model format) in
/-- The warnings about collisions, namespace by namespace: one for each name that stands behind
itself. -/
def collisionWarningsBy : List String :=
  (model.scopesBy format).flatMap fun scope =>
    (again (model.entryNamesBy format scope)).map (duplicateWarning (.str scope))

theorem filter_collisionWarningsBy :
    (model.collisionWarningsBy format).filter isCollisionWarning =
      model.collisionWarningsBy format := by
  rw [List.filter_eq_self]
  intro warning hwarning
  obtain ⟨scope, -, hwarning⟩ := List.mem_flatMap.mp hwarning
  obtain ⟨name, -, rfl⟩ := List.mem_map.mp hwarning
  exact isCollisionWarning_duplicateWarning _ _

/-- There is no warning exactly if the names in each namespace are distinct. -/
theorem collisionWarningsBy_eq_nil_iff :
    model.collisionWarningsBy format = [] ↔
      ∀ scope ∈ model.scopesBy format, (model.entryNamesBy format scope).Nodup := by
  simp only [collisionWarningsBy, List.flatMap_eq_nil_iff, List.map_eq_nil_iff, again_eq_nil_iff]

end Model

namespace Generator

variable {g : Generator} {model : Model} {output : Output}

/-! ## Names of what is emitted -/

/-- The names of the interfaces are among those of the classes, in the same order. -/
theorem sublist_names_interfaces {scopes : Scopes} {modules : List Module}
    {declarations : List Declaration} (h : g.interfaces scopes modules = .ok declarations) :
    (declarations.map (·.name)).Sublist ((modules.flatMap (·.classes)).map (·.name)) := by
  obtain ⟨visible, hvisible, h⟩ := bind_eq_ok h
  have hnames : declarations.map (·.name) = visible.map (·.name) :=
    map_eq_of_mapM_ok (fun _ _ hstep => name_interface hstep) h
  rw [hnames]
  exact (sublist_of_keepIf hvisible).map _

/-- The names of the declared enums are among those of the enums, in the same order. -/
theorem sublist_names_enums {modules : List Module} {declarations : List Declaration}
    (h : g.enums modules = .ok declarations) :
    (declarations.map (·.name)).Sublist ((modules.flatMap (·.enums)).map (·.name)) := by
  obtain ⟨visible, hvisible, h⟩ := bind_eq_ok h
  cases h
  have hnames : (visible.map g.enum).map (·.name) = visible.map (·.name) := by
    rw [List.map_map]
    exact List.map_congr_left fun entry _ => name_enum entry
  rw [hnames]
  exact (sublist_of_keepIf hvisible).map _

/-- What is declared of some modules has distinct names if their entries have. -/
theorem nodup_names_declarations {scopes : Scopes} {modules : List Module}
    {declarations : List Declaration}
    (h : g.declarations scopes output modules = .ok declarations)
    (hdistinct : (modules.flatMap Module.entryNames).Nodup) :
    (declarations.map (·.name)).Nodup := by
  have hparts : g.declarations scopes output modules =
      (if output.properties then g.interfaces scopes modules else .ok []) >>= fun interfaces =>
        (if output.enums then g.enums modules else .ok []) >>= fun enums =>
          .ok (interfaces ++ enums) := by
    unfold Generator.declarations
    cases output.properties <;> cases output.enums <;> rfl
  rw [hparts] at h
  obtain ⟨interfaces, hinterfaces, h⟩ := bind_eq_ok h
  obtain ⟨enums, henums, h⟩ := bind_eq_ok h
  cases h
  have hclasses : (interfaces.map (·.name)).Sublist
      ((modules.flatMap (·.classes)).map (·.name)) := by
    split at hinterfaces
    · exact sublist_names_interfaces hinterfaces
    · cases hinterfaces
      exact List.nil_sublist _
  have hothers : (enums.map (·.name)).Sublist ((modules.flatMap (·.enums)).map (·.name)) := by
    split at henums
    · exact sublist_names_enums henums
    · cases henums
      exact List.nil_sublist _
  -- all classes and then all enums are the entries of the modules in another order
  have hperm : ((modules.flatMap (·.classes)).map (·.name) ++
      (modules.flatMap (·.enums)).map (·.name)).Perm (modules.flatMap Module.entryNames) := by
    rw [List.map_flatMap, List.map_flatMap]
    exact List.flatMap_append_perm _ _ _
  rw [List.map_append]
  exact (hperm.nodup_iff.mpr hdistinct).sublist (hclasses.append hothers)

/-! ## Blocks -/

/-- A block is made of a group, and the blocks stand in the order of the groups. -/
theorem groups_of_blocks {resolution : Resolution} (hresolve : g.resolve model = .ok resolution)
    {blocks : List Block} (h : g.blocks model output = .ok blocks) :
    (blocks.map (·.name)).Sublist (resolution.groups.map (·.1)) ∧
      ∀ b ∈ blocks, ∃ group ∈ resolution.groups,
        g.declarations resolution.scopes output group.2 = .ok b.declarations := by
  unfold Generator.blocks at h
  rw [hresolve] at h
  change (resolution.groups.mapM _ : Except Fault (List Block)) >>= _ = _ at h
  obtain ⟨all, hall, h⟩ := bind_eq_ok h
  cases h
  -- each group gives a block, and blocks without declarations are left out
  constructor
  · have hnames : all.map (·.name) = resolution.groups.map (·.1) := by
      refine map_eq_of_mapM_ok (fun group block hstep => ?_) hall
      obtain ⟨declarations, -, hstep⟩ := bind_eq_ok hstep
      cases hstep
      rfl
    rw [← hnames]
    exact List.filter_sublist.map _
  · intro b hb
    obtain ⟨group, hgroup, hstep⟩ := exists_of_mem_mapM_ok hall (List.mem_filter.mp hb).1
    obtain ⟨declarations, hdeclarations, hstep⟩ := bind_eq_ok hstep
    cases hstep
    exact ⟨group, hgroup, hdeclarations⟩

/-- A text is that of the blocks that it is made of. -/
theorem exists_blocks_of_generate (htemplates : g.templates = {}) {indent : String}
    (hindent : g.indent = .str indent) {text : String}
    (h : g.generate model output = .ok text) :
    ∃ blocks, g.blocks model output = .ok blocks ∧
      text = joinBlocks (blocks.map (Block.text indent)) := by
  obtain ⟨blocks, hblocks, h⟩ := bind_eq_ok h
  rw [mapM_ok fun b _ => blockText_standard htemplates hindent b] at h
  cases h
  exact ⟨blocks, hblocks, rfl⟩

/-! ## Warnings of a model -/

/-- The warnings of a model: those about empty entries, and then one for each name that stands behind
itself in its namespace. -/
theorem warnings_format {format : Module → String × Module}
    (hformat : ∀ m, g.moduleName m = (.str (format m).1, (format m).2))
    (hkeys : ∀ m ∈ model.modules, m.name.isKey = true) :
    g.warnings model = .ok (model.modules.flatMap Module.emptyWarnings ++
      model.collisionWarningsBy format) := by
  unfold warnings
  rw [resolve_format _ (fun m _ => hformat m) hkeys]
  simp only [bind, Except.bind, List.flatMap_map, collisionWarnings, repeated_eq_again,
    Model.collisionWarningsBy, Model.entryNamesBy, Model.modulesBy, Model.scopesBy]

/-- The warnings about collisions are, namespace by namespace, one for each entry whose name came
before; there are none exactly if the names in each namespace are distinct, and then whatever is
emitted of the model opens each namespace once and declares distinct names in it. -/
theorem warnings_collisions (g : Generator) {format : Module → String × Module}
    (hformat : ∀ m, g.moduleName m = (.str (format m).1, (format m).2))
    (htemplates : g.templates = {}) {indent : String} (hindent : g.indent = .str indent)
    {model : Model} (hkeys : ∀ m ∈ model.modules, m.name.isKey = true) :
    ∃ warnings, g.warnings model = .ok warnings ∧
      warnings.filter isCollisionWarning = model.collisionWarningsBy format ∧
      (warnings.filter isCollisionWarning = [] ↔
        ∀ scope ∈ model.scopesBy format, (model.entryNamesBy format scope).Nodup) ∧
      (warnings.filter isCollisionWarning = [] →
        ∀ (isVisible : String → Except Fault Bool) (output : Output) (text : String),
          { g with isVisible }.generate model output = .ok text →
          ∃ blocks, { g with isVisible }.blocks model output = .ok blocks ∧
            text = joinBlocks (blocks.map (Block.text indent)) ∧
            (blocks.map (·.name.text)).Nodup ∧
            ∀ b ∈ blocks, (b.declarations.map (·.name)).Nodup) := by
  refine ⟨_, warnings_format hformat hkeys, ?_⟩
  -- warnings about empty entries are no collisions
  have hempty : (model.modules.flatMap Module.emptyWarnings).filter isCollisionWarning = [] := by
    rw [List.filter_flatMap]
    exact List.flatMap_eq_nil_iff.mpr fun m _ => filter_emptyWarnings m
  rw [List.filter_append, hempty, List.nil_append, Model.filter_collisionWarningsBy]
  refine ⟨rfl, Model.collisionWarningsBy_eq_nil_iff, fun hquiet isVisible output text htext => ?_⟩
  have hresolve := resolve_format (g := { g with isVisible }) _ (fun m _ => hformat m) hkeys
  obtain ⟨blocks, hblocks, rfl⟩ :=
    exists_blocks_of_generate (g := { g with isVisible }) htemplates hindent htext
  obtain ⟨hnames, hgroups⟩ := groups_of_blocks hresolve hblocks
  refine ⟨blocks, hblocks, rfl, ?_, fun b hb => ?_⟩
  · -- the names of the blocks are among the distinct names of the namespaces
    have htexts := hnames.map Json.text
    simp only [List.map_map, Function.comp_def, Json.text_str, List.map_id'] at htexts
    exact (model.nodup_scopesBy format).sublist htexts
  · obtain ⟨group, hgroup, hdeclarations⟩ := hgroups b hb
    obtain ⟨scope, hscope, rfl⟩ := List.mem_map.mp hgroup
    exact nodup_names_declarations hdeclarations
      (Model.collisionWarningsBy_eq_nil_iff.mp hquiet scope hscope)

/-- Two names that differ in the model collide where interfaces are prefixed and modules merged, and
do not where each module keeps its namespace. -/
theorem warnings_collisions_prefixed :
    let user : ClassEntry := { name := "User" }
    let account : ClassEntry := { name := "IUser" }
    let color : EnumEntry := { name := "Color" }
    let model : Model :=
      { modules := [{ name := .str "Shop", classes := [user], enums := [color] },
          { name := .str "Bank", classes := [account], enums := [color] }] }
    let merging : Module → String × Module := fun m => ("App", Naming.prefixInterfaces m)
    let keeping : Module → String × Module := fun m => (m.name.text, Naming.prefixInterfaces m)
    let named (format : Module → String × Module) : Generator :=
      { moduleName := fun m => (.str (format m).1, (format m).2) }
    let text := "declare namespace Shop \x7b\n    export interface IUser \x7b\n    \x7d\n\x7d\n\n" ++
      "declare namespace Bank \x7b\n    export interface IUser \x7b\n    \x7d\n\x7d\n"
    (∀ m ∈ model.modules, m.name.isKey = true) ∧
      (∃ warnings, (named merging).warnings model = .ok warnings ∧
        warnings.filter isCollisionWarning =
          ["Duplicate declaration 'IUser' in namespace 'App'",
            "Duplicate declaration 'Color' in namespace 'App'"]) ∧
      { named keeping with isVisible := fun name => .ok (name != "Color") }.generate model {} =
        .ok text ∧
      ∃ blocks : List Block, text = joinBlocks (blocks.map (Block.text "    ")) ∧
        (blocks.map (·.name.text)).Nodup ∧
        ∀ b ∈ blocks, (b.declarations.map (·.name)).Nodup := by
  intro user account color model merging keeping named text
  have hkeys : ∀ m ∈ model.modules, m.name.isKey = true := by decide
  obtain ⟨warnings, hwarnings, hexact, -, -⟩ :=
    warnings_collisions (named merging) (fun _ => rfl) rfl rfl hkeys
  obtain ⟨others, -, -, hnone, hquiet⟩ :=
    warnings_collisions (named keeping) (fun _ => rfl) rfl rfl hkeys
  have htext : { named keeping with isVisible := fun name => .ok (name != "Color") }.generate
      model {} = .ok text := by
    decide +kernel
  refine ⟨hkeys, ⟨warnings, hwarnings, ?_⟩, htext, ?_⟩
  · rw [hexact]
    decide +kernel
  · obtain ⟨blocks, -, hblocks⟩ := hquiet (hnone.mpr (by decide +kernel)) _ _ _ htext
    exact ⟨blocks, hblocks⟩

end Generator

end Ambient
