/-
  Ambient.Proofs.Model.Order

  What is declared does not depend on the order of the rules or of the symbols. The distinct symbols
  that some rule selects are the same up to order, so the modules of the two models have the same
  names and the same entries up to order (`Model.Agrees`).
-/
import Ambient.Proofs.Model.Runs
import Ambient.Proofs.Selection
import Mathlib.Data.Multiset.Filter

namespace Ambient

/-! ## Comparison of entries -/

/-- Whether two properties agree in every part. -/
def Property.same (p q : Property) : Bool :=
  p.name.same q.name && p.type.same q.type

/-- Whether two class entries agree in every part. -/
def ClassEntry.same (c d : ClassEntry) : Bool :=
  c.name == d.name && TypeSymbol.sameList Json.same c.parameters d.parameters &&
    TypeSymbol.sameList Property.same c.properties d.properties

/-- Whether two members of enums agree in name and value. -/
def EnumMember.same (m n : EnumMember) : Bool :=
  m.name.same n.name && m.value.same n.value

/-- Whether two enum entries agree in every part. -/
def EnumEntry.same (e f : EnumEntry) : Bool :=
  e.name == f.name && TypeSymbol.sameList EnumMember.same e.members f.members

/-- Two lists have the same items, each as often, in any order. -/
def SameUpToOrder {α : Type} (same : α → α → Bool) (as bs : List α) : Prop :=
  Multiset.Rel (fun a b => same a b = true) (as : Multiset α) (bs : Multiset α)

/-- Two models agree up to order: the names of their modules are the same, and modules of one name
have the same classes and the same enums, each as often. -/
structure Model.Agrees (model model' : Model) : Prop where
  names : ∀ m ∈ model.modules, ∃ m' ∈ model'.modules, m.name.same m'.name = true
  names' : ∀ m' ∈ model'.modules, ∃ m ∈ model.modules, m.name.same m'.name = true
  classes : ∀ m ∈ model.modules, ∀ m' ∈ model'.modules, m.name.same m'.name = true →
    SameUpToOrder ClassEntry.same m.classes m'.classes
  enums : ∀ m ∈ model.modules, ∀ m' ∈ model'.modules, m.name.same m'.name = true →
    SameUpToOrder EnumEntry.same m.enums m'.enums

namespace TypeSymbol

variable {α β : Type} {same : α → α → Bool} {same' : β → β → Bool} {as bs : List α}

/-- Lists that agree item by item still do when items are kept by a test that does not tell equal
ones apart. -/
theorem sameList_filter {p : α → Bool} (hp : ∀ a b, same a b = true → p a = p b)
    (h : sameList same as bs = true) : sameList same (as.filter p) (bs.filter p) = true := by
  induction as generalizing bs with
  | nil =>
    cases bs with
    | nil => rfl
    | cons b bs => cases h
  | cons a as ih =>
    cases bs with
    | nil => cases h
    | cons b bs =>
      obtain ⟨hab, hrest⟩ := Bool.and_eq_true_iff.mp h
      rw [List.filter_cons, List.filter_cons, hp a b hab]
      cases p b
      · exact ih hrest
      · simp [sameList, hab, ih hrest]

theorem sameList_map {f : α → β} (hf : ∀ a b, same a b = true → same' (f a) (f b) = true)
    (h : sameList same as bs = true) : sameList same' (as.map f) (bs.map f) = true := by
  induction as generalizing bs with
  | nil =>
    cases bs with
    | nil => rfl
    | cons b bs => cases h
  | cons a as ih =>
    cases bs with
    | nil => cases h
    | cons b bs =>
      obtain ⟨hab, hrest⟩ := Bool.and_eq_true_iff.mp h
      simp [sameList, hf a b hab, ih hrest]

/-! ## Entries of equal symbols -/

variable {s t : TypeSymbol} (h : s.same t = true)
include h

theorem same_classEntry : s.classEntry.same t.classEntry = true := by
  obtain ⟨hname, -, -, hparameters, hmembers, -⟩ := same_parts h
  have hproperties : sameList Property.same s.properties t.properties = true := by
    refine sameList_map ?_ (sameList_filter ?_ hmembers)
    · intro m n hmn
      simp only [Member.same, Bool.and_eq_true] at hmn
      simp only [Property.same, hmn, Bool.and_self]
    · intro m n hmn
      simp only [Member.same, Bool.and_eq_true, beq_iff_eq] at hmn
      simp only [Member.isExported, hmn]
  simp [ClassEntry.same, classEntry, simpleName, hname, hparameters, hproperties]

theorem same_enumEntry : s.enumEntry.same t.enumEntry = true := by
  obtain ⟨hname, -, -, -, -, hvalues⟩ := same_parts h
  have hmembers : sameList EnumMember.same s.enumEntry.members t.enumEntry.members = true := by
    refine sameList_map ?_ hvalues
    intro v w hvw
    simp only [EnumValue.same, Bool.and_eq_true, beq_iff_eq] at hvw
    simp [EnumMember.same, hvw, Json.same, Json.sameNumber, Json.asInt?]
  rw [EnumEntry.same, hmembers]
  simp [enumEntry, simpleName, hname]

theorem same_isEnum : s.isEnum = t.isEnum := by
  rw [isEnum, isEnum, (same_parts h).2.2.1]

end TypeSymbol

/-! ## Lists up to order -/

namespace SameUpToOrder

variable {α β : Type} {same : α → α → Bool} {as bs : List α}

theorem exists_mem (h : SameUpToOrder same as bs) {a : α} (ha : a ∈ as) :
    ∃ b ∈ bs, same a b = true :=
  Multiset.exists_mem_of_rel_of_mem h ha

theorem exists_mem' (h : SameUpToOrder same as bs) {b : α} (hb : b ∈ bs) :
    ∃ a ∈ as, same a b = true :=
  Multiset.exists_mem_of_rel_of_mem (Multiset.rel_flip.mpr h) hb

theorem map {same' : β → β → Bool} {f : α → β} (h : SameUpToOrder same as bs)
    (hf : ∀ a b, same a b = true → same' (f a) (f b) = true) :
    SameUpToOrder same' (as.map f) (bs.map f) := by
  rw [SameUpToOrder, ← Multiset.map_coe, ← Multiset.map_coe]
  exact Multiset.rel_map.mpr (h.mono fun a _ b _ => hf a b)

/-- Tests that agree on equal items keep the same items. -/
theorem filter {p q : α → Bool} (h : SameUpToOrder same as bs)
    (hpq : ∀ a ∈ as, ∀ b ∈ bs, same a b = true → p a = q b) :
    SameUpToOrder same (as.filter p) (bs.filter q) := by
  -- the relation is followed pair by pair, and each pair is kept or left out as one
  have hrel : ∀ {s t : Multiset α}, Multiset.Rel (fun a b => same a b = true) s t →
      (∀ a ∈ s, ∀ b ∈ t, same a b = true → p a = q b) →
      Multiset.Rel (fun a b => same a b = true) (s.filter (p ·)) (t.filter (q ·)) := by
    intro s t hst
    induction hst with
    | zero => exact fun _ => .zero
    | @cons a b s t hab _ ih =>
      intro hall
      have hrest := ih fun x hx y hy => hall x (by simp [hx]) y (by simp [hy])
      have hfirst := hall a (by simp) b (by simp) hab
      cases hb : q b
      · rwa [Multiset.filter_cons_of_neg _ (by simp [hfirst, hb]),
          Multiset.filter_cons_of_neg _ (by simp [hb])]
      · rw [Multiset.filter_cons_of_pos _ (by simp [hfirst, hb]),
          Multiset.filter_cons_of_pos _ (by simp [hb])]
        exact .cons hab hrest
  have hkept := hrel h hpq
  simp only [Multiset.filter_coe, Bool.decide_eq_true] at hkept
  exact hkept

end SameUpToOrder

/-! ## Models up to order -/

open TypeSymbol

/-- Lists in which the same symbols occur have the same distinct symbols up to order. -/
theorem sameUpToOrder_distinct {symbols symbols' : List TypeSymbol}
    (hkeyed : ∀ s ∈ symbols, s.IsKeyed) (hmem : ∀ s, s ∈ symbols ↔ s ∈ symbols') :
    SameUpToOrder TypeSymbol.same (symbols.eraseDupsBy TypeSymbol.same)
      (symbols'.eraseDupsBy TypeSymbol.same) := by
  have hkeyed' : ∀ s ∈ symbols', s.IsKeyed := fun s hs => hkeyed s ((hmem s).mpr hs)
  have himages : ∀ x, x ∈ symbols.map counted ↔ x ∈ symbols'.map counted := by
    simp [List.mem_map, hmem]
  have hperm := Distinct.perm_images (tells_counted hkeyed) (tells_counted hkeyed') himages
  -- equal images are images of equal symbols
  have hrel : Multiset.Rel (fun s t => s.counted = t.counted)
      (symbols.eraseDupsBy TypeSymbol.same : Multiset TypeSymbol)
      (symbols'.eraseDupsBy TypeSymbol.same : Multiset TypeSymbol) := by
    rw [← Multiset.rel_map, Multiset.rel_eq, Multiset.map_coe, Multiset.map_coe]
    exact Multiset.coe_eq_coe.mpr hperm
  refine hrel.mono fun s hs t ht heq => ?_
  exact (same_iff (hkeyed s (Distinct.mem_of_mem hs)) (hkeyed' t (Distinct.mem_of_mem ht))).mpr heq

namespace Model.Declares

variable {model : Model} {symbols : List TypeSymbol} (h : model.Declares symbols)
include h

/-- A module is named after one of the symbols. -/
theorem exists_symbol {m : Module} (hm : m ∈ model.modules) :
    ∃ s ∈ symbols, s.moduleName = m.name := by
  have hname : m.name ∈ model.modules.map (·.name) := List.mem_map_of_mem hm
  rw [h.names] at hname
  exact List.mem_map.mp (Distinct.mem_of_mem hname)

theorem isKey_name_of_keyed (hkeyed : ∀ s ∈ symbols, s.IsKeyed) {m : Module}
    (hm : m ∈ model.modules) : m.name.isKey = true := by
  obtain ⟨s, hs, heq⟩ := h.exists_symbol hm
  rw [← heq]
  exact isKey_moduleName (hkeyed s hs).scope

/-- Each symbol has the module of its namespace. -/
theorem exists_name (hkeyed : ∀ s ∈ symbols, s.IsKeyed) {s : TypeSymbol} (hs : s ∈ symbols) :
    ∃ m ∈ model.modules, m.name.counted = s.moduleName.counted := by
  obtain ⟨name, hname, himage⟩ := Distinct.exists_mem (tells_moduleName hkeyed)
    (List.mem_map_of_mem hs)
  rw [← h.names] at hname
  obtain ⟨m, hm, rfl⟩ := List.mem_map.mp hname
  exact ⟨m, hm, himage⟩

/-- Models of symbols that are the same up to order agree up to order. -/
theorem agrees {model' : Model} {symbols' : List TypeSymbol} (h' : model'.Declares symbols')
    (hkeyed : ∀ s ∈ symbols, s.IsKeyed) (hkeyed' : ∀ s ∈ symbols', s.IsKeyed)
    (hsame : SameUpToOrder TypeSymbol.same symbols symbols') : model.Agrees model' := by
  have hmoduleName : ∀ s ∈ symbols, ∀ t ∈ symbols', s.same t = true →
      s.moduleName.counted = t.moduleName.counted := by
    intro s hs t ht hst
    have hs' := (hkeyed s hs).scope
    have ht' := (hkeyed' t ht).scope
    exact (Json.same_iff (isKey_moduleName hs') (isKey_moduleName ht')).mp
      (same_moduleName hs' ht' hst)
  have hnames : ∀ m ∈ model.modules, ∀ m' ∈ model'.modules,
      m.name.same m'.name = true ↔ m.name.counted = m'.name.counted := fun m hm m' hm' =>
    Json.same_iff (h.isKey_name_of_keyed hkeyed hm) (h'.isKey_name_of_keyed hkeyed' hm')
  -- equal symbols are in modules of one name
  have hmodule : ∀ m ∈ model.modules, ∀ m' ∈ model'.modules, m.name.same m'.name = true →
      ∀ s ∈ symbols, ∀ t ∈ symbols', s.same t = true →
        s.moduleName.same m.name = t.moduleName.same m'.name := by
    intro m hm m' hm' hmm' s hs t ht hst
    rw [Bool.eq_iff_iff,
      Json.same_iff (isKey_moduleName (hkeyed s hs).scope) (h.isKey_name_of_keyed hkeyed hm),
      Json.same_iff (isKey_moduleName (hkeyed' t ht).scope) (h'.isKey_name_of_keyed hkeyed' hm'),
      hmoduleName s hs t ht hst, (hnames m hm m' hm').mp hmm']
  constructor
  case names =>
    intro m hm
    obtain ⟨s, hs, hname⟩ := h.exists_symbol hm
    obtain ⟨t, ht, hst⟩ := hsame.exists_mem hs
    obtain ⟨m', hm', hcounted⟩ := h'.exists_name hkeyed' ht
    refine ⟨m', hm', (hnames m hm m' hm').mpr ?_⟩
    rw [← hname, hmoduleName s hs t ht hst, hcounted]
  case names' =>
    intro m' hm'
    obtain ⟨t, ht, hname⟩ := h'.exists_symbol hm'
    obtain ⟨s, hs, hst⟩ := hsame.exists_mem' ht
    obtain ⟨m, hm, hcounted⟩ := h.exists_name hkeyed hs
    refine ⟨m, hm, (hnames m hm m' hm').mpr ?_⟩
    rw [hcounted, hmoduleName s hs t ht hst, hname]
  case classes =>
    intro m hm m' hm' hmm'
    rw [h.classes m hm, h'.classes m' hm']
    refine (hsame.filter fun s hs t ht hst => ?_).map fun s t => same_classEntry
    rw [hmodule m hm m' hm' hmm' s hs t ht hst, same_isEnum hst]
  case enums =>
    intro m hm m' hm' hmm'
    rw [h.enums m hm, h'.enums m' hm']
    refine (hsame.filter fun s hs t ht hst => ?_).map fun s t => same_enumEntry
    rw [hmodule m hm m' hm' hmm' s hs t ht hst, same_isEnum hst]

end Model.Declares

/-! ## Models of selected symbols -/

namespace Config

/-- The model of the symbols that a configuration selects. -/
def modelOf (config : Config) (symbols : List TypeSymbol) : Except Fault Model := do
  let selected ← config.select symbols
  Model.ofSymbols selected

/-- Whether some rule of a configuration selects a symbol. -/
def Accepts (config : Config) (s : TypeSymbol) : Prop :=
  ∃ rule ∈ config.rules, rule.selects config.includeStaticClasses.isTruthy s = .ok true

/-- Some symbols are those that a configuration accepts, each once. -/
structure Accepted (config : Config) (symbols distinct : List TypeSymbol) : Prop where
  /-- No two of them are equal. -/
  apart : distinct.Pairwise fun s t => s.same t = false
  /-- Each of them is accepted by some rule. -/
  accepted : ∀ t ∈ distinct, t ∈ symbols ∧ config.Accepts t
  /-- Each symbol that some rule accepts is equal to exactly one of them. -/
  one : ∀ s ∈ symbols, config.Accepts s → ∃! t, t ∈ distinct ∧ t.same s = true

variable {config : Config} {symbols : List TypeSymbol}

/-- The selected symbols have a model exactly if the rules have an answer for each symbol and no
accepted symbol is refused. -/
theorem exists_modelOf_iff :
    (∃ model, config.modelOf symbols = .ok model) ↔
      (∀ rule ∈ config.rules, ∀ s ∈ symbols, ∃ answer,
        rule.selects config.includeStaticClasses.isTruthy s = .ok answer) ∧
      ∀ s ∈ symbols, config.Accepts s → Builder.admitted (some s) = .ok s := by
  rw [← exists_selectAll_iff]
  constructor
  · rintro ⟨model, h⟩
    obtain ⟨selected, hselected, h⟩ := bind_eq_ok h
    obtain ⟨hadmitted, -⟩ := Model.ofSymbols_eq_ok_iff.mp h
    refine ⟨⟨selected, hselected⟩, fun s hs haccepts => hadmitted s ?_⟩
    exact (mem_selectAll_iff hselected).mpr ⟨hs, haccepts⟩
  · rintro ⟨⟨selected, hselected⟩, hadmitted⟩
    have hall : ∀ s ∈ selected, Builder.admitted (some s) = .ok s := by
      intro s hs
      obtain ⟨hmem, haccepts⟩ := (mem_selectAll_iff hselected).mp hs
      exact hadmitted s hmem haccepts
    have hmodel := Model.ofSymbols_eq_ok_iff.mpr ⟨hall, rfl⟩
    exact ⟨_, by rw [modelOf, select, hselected]; exact hmodel⟩

/-- A model of selected symbols declares the distinct ones of those that are accepted. -/
theorem declares_of_modelOf {model : Model} (h : config.modelOf symbols = .ok model) :
    ∃ selected : List TypeSymbol,
      (∀ s, s ∈ selected ↔ s ∈ symbols ∧ config.Accepts s) ∧
      (∀ s ∈ selected, s.IsKeyed) ∧ model.Declares (selected.eraseDupsBy TypeSymbol.same) := by
  obtain ⟨selected, hselected, h⟩ := bind_eq_ok h
  obtain ⟨hadmitted, rfl⟩ := Model.ofSymbols_eq_ok_iff.mp h
  have hkeyed : ∀ s ∈ selected, s.IsKeyed :=
    fun s hs => Builder.isKeyed_of_admitted (hadmitted s hs)
  exact ⟨selected, fun s => mem_selectAll_iff hselected, hkeyed,
    Builder.declares_build fun s hs => hkeyed s (Distinct.mem_of_mem hs)⟩

/-- The distinct ones of the accepted symbols are those, each once. -/
theorem accepted_distinct {selected : List TypeSymbol}
    (hmem : ∀ s, s ∈ selected ↔ s ∈ symbols ∧ config.Accepts s)
    (hkeyed : ∀ s ∈ selected, s.IsKeyed) :
    config.Accepted symbols (selected.eraseDupsBy TypeSymbol.same) := by
  have htells := tells_counted hkeyed
  constructor
  case apart => exact Distinct.pairwise_apart htells
  case accepted => exact fun t ht => (hmem t).mp (Distinct.mem_of_mem ht)
  case one =>
    intro s hs haccepts
    have hselected := (hmem s).mpr ⟨hs, haccepts⟩
    obtain ⟨t, ht, heq⟩ := Distinct.exists_mem htells hselected
    refine ⟨t, ⟨ht, (htells t (Distinct.mem_of_mem ht) s hselected).mpr heq⟩, ?_⟩
    rintro u ⟨hu, hsame⟩
    -- two of the distinct symbols that have one image are one symbol
    have hu' := (htells u (Distinct.mem_of_mem hu) s hselected).mp hsame
    exact List.inj_on_of_nodup_map (Distinct.nodup_images htells) hu ht (hu'.trans heq.symm)

/-- The order of the rules and of the symbols does not matter: there is a model or there is none,
models of two orders agree up to order, and a model declares each accepted symbol by one entry,
however many rules accept it and however often it comes. -/
theorem modelOf_perm {rules : List Rule} {symbols' : List TypeSymbol}
    (hrules : config.rules.Perm rules) (hsymbols : symbols.Perm symbols') :
    ((∃ model, config.modelOf symbols = .ok model) ↔
      ∃ model, { config with rules }.modelOf symbols' = .ok model) ∧
    ∀ model, config.modelOf symbols = .ok model →
      (∀ model', { config with rules }.modelOf symbols' = .ok model' → model.Agrees model') ∧
      ∃ distinct, config.Accepted symbols distinct ∧ model.Declares distinct := by
  have haccepts : ∀ s, { config with rules }.Accepts s ↔ config.Accepts s := by
    intro s
    simp only [Accepts, hrules.mem_iff]
  refine ⟨?_, fun model h => ?_⟩
  · rw [exists_modelOf_iff, exists_modelOf_iff]
    simp only [haccepts, hrules.mem_iff, hsymbols.mem_iff]
  · obtain ⟨selected, hmem, hkeyed, hdeclares⟩ := declares_of_modelOf h
    refine ⟨fun model' h' => ?_, _, accepted_distinct hmem hkeyed, hdeclares⟩
    obtain ⟨selected', hmem', hkeyed', hdeclares'⟩ := declares_of_modelOf h'
    have hsame : ∀ s, s ∈ selected ↔ s ∈ selected' := by
      intro s
      rw [hmem, hmem', haccepts, hsymbols.mem_iff]
    exact hdeclares.agrees hdeclares' (fun s hs => hkeyed s (Distinct.mem_of_mem hs))
      (fun s hs => hkeyed' s (Distinct.mem_of_mem hs)) (sameUpToOrder_distinct hkeyed hsame)

/-- A symbol that comes twice and that two rules accept is declared once, in either order of the
rules. -/
theorem modelOf_perm_overlapping :
    let box : TypeSymbol :=
      { name := "Box`1", scope := .str "Shop", parameters := [.str "T"] }
    let size : TypeSymbol := { name := "Size", scope := .str "Shop.Parts", kind := .enum }
    let shop : Rule := { scope := .str "Shop" }
    let all : Rule := { scope := .str "Shop", includeNested := .bool true }
    let config : Config := { rules := [shop, all] }
    let model := Builder.build { symbols := [box, size] }
    let model' := Builder.build { symbols := [size, box] }
    config.modelOf [box, size, box] = .ok model ∧
      { config with rules := [all, shop] }.modelOf [size, box, box] = .ok model' ∧
      model.Agrees model' ∧ model.classCount = 1 ∧ model.enumCount = 1 := by
  intro box size shop all config model model'
  have hmodel : config.modelOf [box, size, box] = .ok model := by
    dsimp only [config, model, shop, all, box, size]
    rfl
  have hmodel' : { config with rules := [all, shop] }.modelOf [size, box, box] = .ok model' := by
    dsimp only [config, model', shop, all, box, size]
    rfl
  have hrules : config.rules.Perm [all, shop] := .swap all shop []
  have hsymbols : [box, size, box].Perm [size, box, box] := .swap size box [box]
  obtain ⟨-, hall⟩ := modelOf_perm hrules hsymbols
  exact ⟨hmodel, hmodel', (hall model hmodel).1 model' hmodel', by decide +kernel,
    by decide +kernel⟩

end Config

end Ambient
