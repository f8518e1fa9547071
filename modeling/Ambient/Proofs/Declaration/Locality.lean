/-
  Ambient.Proofs.Declaration.Locality

  Blocks on their own. Where modules go to the namespaces of their own names and there are several
  of them, the text of a block is made of the modules of its namespace and of nothing else
  (`mem_pages_iff`): each namespace is called by its own name, wherever a reference stands and
  whether or not the model has a module for it. So models that have the same modules under a name
  have the same block for it.
-/
import Ambient.Proofs.Declaration.References
import Ambient.Proofs.Declaration.Scopes

namespace Ambient

/-! ## Names of modules -/

namespace Json

/-- A name is the same key as nothing but itself, also where it is compared with another value. -/
theorem str_same_iff (name : String) (key : Json) :
    (Json.str name).same key = true ↔ key = .str name := by
  cases key with
  | str other =>
    rw [same_str_iff, Json.str.injEq, Json.str.injEq]
    exact eq_comm
  | _ => simp [same, sameNumber, asInt?]

end Json

namespace Model

variable (model : Model)

/-- All modules are named by texts. -/
def IsNamed : Prop :=
  ∀ m ∈ model.modules, ∃ name, m.name = .str name

/-- Not all modules have one name. -/
def HasSeveral : Prop :=
  ∃ m ∈ model.modules, ∃ n ∈ model.modules, m.name ≠ n.name

/-- The modules of a name, in order. -/
def modulesOf (name : String) : List Module :=
  model.modules.filter (·.name.same (.str name))

/-- The distinct names of the modules, in order of first appearance. -/
def names : List String :=
  (model.modules.map (·.name.text)).eraseDups

variable {model}

theorem IsNamed.name_eq (h : model.IsNamed) {m : Module} (hm : m ∈ model.modules) :
    m.name = .str m.name.text := by
  obtain ⟨name, hname⟩ := h m hm
  rw [hname, Json.text_str]

theorem IsNamed.isKey (h : model.IsNamed) : ∀ m ∈ model.modules, m.name.isKey = true := by
  intro m hm
  rw [h.name_eq hm]
  rfl

theorem mem_names_of_modulesOf {name : String} (h : model.modulesOf name ≠ []) :
    name ∈ model.names := by
  obtain ⟨m, hm⟩ := List.exists_mem_of_ne_nil _ h
  obtain ⟨hm, hsame⟩ := List.mem_filter.mp hm
  refine List.mem_eraseDups.mpr (List.mem_map.mpr ⟨m, hm, ?_⟩)
  rw [(Json.same_str_iff _ _).mp hsame, Json.text_str]

theorem nodup_names : model.names.Nodup := by
  have htells : Distinct.Tells (· == ·) id (model.modules.map (·.name.text)) :=
    fun a _ b _ => by simp
  have hdistinct := Distinct.nodup_images htells
  rwa [List.map_id] at hdistinct

/-- Different names of modules are different namespaces. -/
theorem length_names_ne_one (hnamed : model.IsNamed) (h : model.HasSeveral) :
    model.names.length ≠ 1 := by
  obtain ⟨m, hm, n, hn, hne⟩ := h
  intro hone
  obtain ⟨name, hname⟩ := List.length_eq_one_iff.mp hone
  have htext : ∀ k ∈ model.modules, k.name.text = name := by
    intro k hk
    have hmem : k.name.text ∈ model.names := List.mem_eraseDups.mpr (List.mem_map_of_mem hk)
    rw [hname] at hmem
    exact List.mem_singleton.mp hmem
  exact hne (by rw [hnamed.name_eq hm, hnamed.name_eq hn, htext m hm, htext n hn])

end Model

namespace Generator

variable {g : Generator} {model : Model} {output : Output}

/-! ## Namespaces under their own names -/

/-- The groups of a model are its names, each with the modules of that name. -/
theorem resolve_named (hg : g.moduleName = Naming.formatModule .null) (hnamed : model.IsNamed) :
    g.resolve model = .ok {
      groups := model.names.map fun name =>
        (.str name, (model.modulesOf name).map Naming.prefixInterfaces)
      scopes := { names := model.modules.map fun m => (m.name, m.name)
                  isSingle := model.names.length == 1 } } := by
  have hresolve := resolve_formatModule hg (.inl rfl) hnamed.isKey
  -- the names are texts, by which modules can be told apart
  have hentries : (model.modules.map fun m => (m.name, Naming.prefixInterfaces m)) =
      (model.modules.map fun m => (m.name.text, Naming.prefixInterfaces m)).map
        fun e => (Json.str e.1, e.2) := by
    rw [List.map_map]
    exact List.map_congr_left fun m hm => by rw [Function.comp_apply, ← hnamed.name_eq hm]
  have hgroups : Grouping.ofList (model.modules.map fun m => (m.name, Naming.prefixInterfaces m)) =
      model.names.map fun name =>
        (.str name, (model.modulesOf name).map Naming.prefixInterfaces) := by
    rw [hentries, Grouping.ofList_str, List.map_map]
    refine List.map_congr_left fun name _ => ?_
    rw [List.filter_map, List.map_map]
    have hmodules : model.modules.filter (fun m => m.name.text == name) = model.modulesOf name := by
      refine List.filter_congr fun m hm => ?_
      rw [hnamed.name_eq hm, Json.text_str, Bool.eq_iff_iff, beq_iff_eq, Json.same_str_iff,
        Json.str.injEq]
    rw [← hmodules]
    rfl
  have hown : ∀ m : Module, Json.null.orElse m.name = m.name := fun _ => rfl
  simp only [hown, hgroups, List.length_map] at hresolve
  exact hresolve

/-- Each namespace is called by its own name, whether or not it has a module. -/
theorem nameOf_named (hnamed : model.IsNamed) (isSingle : Bool) (scope : Json) :
    Scopes.nameOf { names := model.modules.map fun m => (m.name, m.name), isSingle } scope =
      scope := by
  unfold Scopes.nameOf
  split
  · rename_i source called hfound
    have hsame : source.same scope = true := by simpa using List.find?_some hfound
    obtain ⟨m, hm, heq⟩ := List.mem_map.mp (List.mem_of_find?_eq_some hfound)
    cases heq
    rw [hnamed.name_eq hm] at hsame ⊢
    exact ((Json.str_same_iff _ _).mp hsame).symm
  · rfl

/-- The namespaces of a model with several names qualify names as no namespaces at all do. -/
theorem agree_named (hnamed : model.IsNamed) :
    Scopes.Agree { names := model.modules.map fun m => (m.name, m.name), isSingle := false } {} where
  isSingle := rfl
  qualify name scope := by
    rw [Scopes.qualify, Scopes.qualify, nameOf_named hnamed]
    rfl

/-! ## Pages -/

variable (g model output)

/-- The text of each block of a model, with the name of its namespace. -/
def pages : Except Fault (List (Json × String)) := do
  let blocks ← g.blocks model output
  blocks.mapM fun block => do .ok (block.name, ← g.blockText block)

/-- The text of the block that some modules make on their own, if they declare something. -/
def pageOf (name : String) (modules : List Module) : Except Fault (Option String) := do
  let declarations ← g.declarations {} output (modules.map Naming.prefixInterfaces)
  if declarations.isEmpty then .ok none
  else do .ok (some (← g.blockText { name := .str name, declarations }))

/-- The text of a model is that of its pages. -/
theorem generate_eq_pages :
    g.generate model output = (do
      let pages ← g.pages model output
      .ok (joinBlocks (pages.map (·.2)))) := by
  rw [generate, pages]
  cases g.blocks model output with
  | error fault => rfl
  | ok blocks =>
    show (do
      let texts ← blocks.mapM g.blockText
      .ok (joinBlocks texts)) = _
    rw [← mapM_beside g.blockText (·.name)]
    show _ = (do
      let pages ← blocks.mapM fun block => do .ok (block.name, ← g.blockText block)
      .ok (joinBlocks (pages.map Prod.snd)))
    cases (blocks.mapM fun block => do .ok (block.name, ← g.blockText block) :
      Except Fault (List (Json × String))) <;> rfl

variable {g model output} {pages : List (Json × String)}

/-- A page is the text of a block, and the block holds the declarations of a group. -/
theorem exists_block_of_mem_pages (h : g.pages model output = .ok pages) :
    ∃ resolution all, g.resolve model = .ok resolution ∧
      (resolution.groups.mapM fun group => do
        let declarations ← g.declarations resolution.scopes output group.2
        .ok ({ name := group.1, declarations } : Block)) = .ok all ∧
      (all.filter (!·.declarations.isEmpty)).mapM
        (fun block => do .ok (block.name, ← g.blockText block)) = .ok pages := by
  obtain ⟨blocks, hblocks, hpages⟩ := bind_eq_ok h
  obtain ⟨resolution, hresolution, hblocks⟩ := bind_eq_ok hblocks
  obtain ⟨all, hall, hblocks⟩ := bind_eq_ok hblocks
  cases hblocks
  exact ⟨resolution, all, hresolution, hall, hpages⟩

/-- No two pages are of one namespace. -/
theorem nodup_pages (hg : g.moduleName = Naming.formatModule .null) (hnamed : model.IsNamed)
    (h : g.pages model output = .ok pages) : (pages.map (·.1)).Nodup := by
  obtain ⟨resolution, all, hresolution, hall, hpages⟩ := exists_block_of_mem_pages h
  rw [resolve_named hg hnamed] at hresolution
  cases hresolution
  -- pages are the blocks that declare something, and blocks have the names of the namespaces
  have hnames : pages.map (·.1) = (all.filter (!·.declarations.isEmpty)).map (·.name) := by
    refine map_eq_of_mapM_ok (fun block page hpage => ?_) hpages
    obtain ⟨text, -, hpage⟩ := bind_eq_ok hpage
    cases hpage
    rfl
  have hgroups : all.map (·.name) = model.names.map Json.str := by
    have hblocks : all.map (·.name) = (model.names.map fun name =>
        (Json.str name, (model.modulesOf name).map Naming.prefixInterfaces)).map (·.1) := by
      refine map_eq_of_mapM_ok (fun group block hblock => ?_) hall
      obtain ⟨declarations, -, hblock⟩ := bind_eq_ok hblock
      cases hblock
      rfl
    rw [hblocks, List.map_map]
    rfl
  have hdistinct : (all.map (·.name)).Nodup := by
    rw [hgroups]
    exact List.Pairwise.map Json.str (fun _ _ hne heq => hne (Json.str.inj heq)) Model.nodup_names
  rw [hnames]
  exact hdistinct.sublist (List.filter_sublist.map _)

/-- The page of a namespace is the one that the modules of its name make on their own. -/
theorem mem_pages_iff (hg : g.moduleName = Naming.formatModule .null) (hnamed : model.IsNamed)
    (hseveral : model.HasSeveral) (h : g.pages model output = .ok pages) {name page : String} :
    (.str name, page) ∈ pages ↔ g.pageOf output name (model.modulesOf name) = .ok (some page) := by
  obtain ⟨resolution, all, hresolution, hall, hpages⟩ := exists_block_of_mem_pages h
  rw [resolve_named hg hnamed] at hresolution
  cases hresolution
  have hsingle : (model.names.length == 1) = false := by
    simpa using Model.length_names_ne_one hnamed hseveral
  rw [hsingle] at hall
  -- the declarations of a group do not depend on what the namespaces of the model are called
  have hdeclarations : ∀ modules, g.declarations
        { names := model.modules.map fun m => (m.name, m.name), isSingle := false } output modules =
      g.declarations {} output modules :=
    fun modules => g.declarations_congr (agree_named hnamed) output rfl rfl
  simp only [hdeclarations] at hall
  constructor
  · -- a page comes of a block, the block of a group, and the group of a name
    intro hpage
    obtain ⟨block, hblock, htext⟩ := exists_of_mem_mapM_ok hpages hpage
    obtain ⟨hmem, hfilled⟩ := List.mem_filter.mp hblock
    obtain ⟨group, hgroup, hmade⟩ := exists_of_mem_mapM_ok hall hmem
    obtain ⟨own, -, rfl⟩ := List.mem_map.mp hgroup
    obtain ⟨declarations, hdeclared, hmade⟩ := bind_eq_ok hmade
    cases hmade
    obtain ⟨text, htext, hname⟩ := bind_eq_ok htext
    cases hname
    have hempty : declarations.isEmpty = false := by simpa using hfilled
    rw [pageOf, hdeclared]
    simp only [bind, Except.bind, hempty, htext]
    rfl
  · intro hpage
    obtain ⟨declarations, hdeclared, hpage⟩ := bind_eq_ok hpage
    split at hpage
    · cases hpage
    · rename_i hempty
      obtain ⟨text, htext, hpage⟩ := bind_eq_ok hpage
      cases hpage
      -- a name without modules declares nothing
      have hmodules : model.modulesOf name ≠ [] := by
        intro hnone
        rw [hnone, List.map_nil, declarations_of_empty _ _ _ rfl rfl] at hdeclared
        cases hdeclared
        exact hempty rfl
      have hgroup := List.mem_map_of_mem (f := fun name =>
        (Json.str name, (model.modulesOf name).map Naming.prefixInterfaces))
        (Model.mem_names_of_modulesOf hmodules)
      obtain ⟨block, hblock, hmade⟩ := mem_of_mapM_ok hall hgroup
      rw [hdeclared] at hmade
      cases hmade
      have hkept : ({ name := .str name, declarations } : Block) ∈
          all.filter (!·.declarations.isEmpty) :=
        List.mem_filter.mpr ⟨hblock, by simpa using hempty⟩
      obtain ⟨entry, hentry, hstep⟩ := mem_of_mapM_ok hpages hkept
      rw [htext] at hstep
      cases hstep
      exact hentry

/-- Models with several namespaces that have the same modules under a name have the same block for
it, or none, whatever their other modules are. -/
theorem page_local (hg : g.moduleName = Naming.formatModule .null) {model model' : Model}
    (hnamed : model.IsNamed) (hnamed' : model'.IsNamed) (hseveral : model.HasSeveral)
    (hseveral' : model'.HasSeveral) {name : String}
    (hmodules : model.modulesOf name = model'.modulesOf name) {text text' : String}
    (h : g.generate model output = .ok text) (h' : g.generate model' output = .ok text') :
    ∃ pages pages',
      (g.pages model output = .ok pages ∧ text = joinBlocks (pages.map (·.2)) ∧
        (pages.map (·.1)).Nodup) ∧
      (g.pages model' output = .ok pages' ∧ text' = joinBlocks (pages'.map (·.2)) ∧
        (pages'.map (·.1)).Nodup) ∧
      ∀ page, (.str name, page) ∈ pages ↔ (.str name, page) ∈ pages' := by
  rw [generate_eq_pages] at h h'
  obtain ⟨pages, hpages, htext⟩ := bind_eq_ok h
  obtain ⟨pages', hpages', htext'⟩ := bind_eq_ok h'
  refine ⟨pages, pages', ⟨hpages, (Except.ok.inj htext).symm, nodup_pages hg hnamed hpages⟩,
    ⟨hpages', (Except.ok.inj htext').symm, nodup_pages hg hnamed' hpages'⟩, fun page => ?_⟩
  rw [mem_pages_iff hg hnamed hseveral hpages, mem_pages_iff hg hnamed' hseveral' hpages', hmodules]

/-- The block of a namespace that refers to two others stays as it is where one of those loses its
module and the other gets one. -/
theorem page_local_references :
    let order : ClassEntry :=
      { name := "Order"
        properties :=
          [{ name := .str "By", type := .named "User" .classType (.str "Bank") [] },
           { name := .str "Paid", type := .arrayOf (.named "Coin" .enum (.str "Mint") []) }] }
    let shop : Module := { name := .str "Shop", classes := [order] }
    let user : ClassEntry := { name := "User" }
    let coin : EnumEntry := { name := "Coin" }
    let model : Model := { modules := [{ name := .str "Bank", classes := [user] }, shop] }
    let model' : Model := { modules := [shop, { name := .str "Mint", enums := [coin] }] }
    let page := "declare namespace Shop \x7b\n    export interface IOrder \x7b\n" ++
      "        by: Bank.IUser;\n        paid: Mint.Coin[];\n    \x7d\n\x7d"
    let text := "declare namespace Bank \x7b\n    export interface IUser \x7b\n    \x7d\n\x7d" ++
      "\n\n" ++ page ++ "\n"
    let text' := page ++ "\n\n" ++
      "declare namespace Mint \x7b\n    export enum Coin \x7b\n    \x7d\n\x7d\n"
    ({} : Generator).generate model {} = .ok text ∧
      ({} : Generator).generate model' {} = .ok text' ∧
      ∃ pages pages', ({} : Generator).pages model {} = .ok pages ∧
        ({} : Generator).pages model' {} = .ok pages' ∧
        (.str "Shop", page) ∈ pages ∧ (.str "Shop", page) ∈ pages' := by
  intro order shop user coin model model' page text text'
  have htext : ({} : Generator).generate model {} = .ok text := by decide +kernel
  have htext' : ({} : Generator).generate model' {} = .ok text' := by decide +kernel
  have hnamed : model.IsNamed := by simp [Model.IsNamed, model, shop]
  have hnamed' : model'.IsNamed := by simp [Model.IsNamed, model', shop]
  have hseveral : model.HasSeveral := by simp [Model.HasSeveral, model, shop]
  have hseveral' : model'.HasSeveral := by simp [Model.HasSeveral, model', shop]
  have hmodules : model.modulesOf "Shop" = model'.modulesOf "Shop" := by
    simp [Model.modulesOf, model, model', shop, Json.same]
  obtain ⟨pages, pages', hpages, hpages', hlocal⟩ :=
    page_local rfl hnamed hnamed' hseveral hseveral' hmodules htext htext'
  have hpage : (.str "Shop", page) ∈ pages := by
    rw [mem_pages_iff rfl hnamed hseveral hpages.1]
    decide +kernel
  exact ⟨htext, htext', pages, pages', hpages.1, hpages'.1, hpage, (hlocal page).mp hpage⟩

end Generator

end Ambient
