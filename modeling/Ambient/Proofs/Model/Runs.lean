/-
  Ambient.Proofs.Model.Runs

  What a builder holds after any calls, some of which may fail. A call adds the symbols up to the
  first that is refused (`Call.accepted`); the builder holds the distinct ones of all that were
  accepted, and its model declares each of them once, in the module of its namespace.
-/
import Ambient.Proofs.Model.Builder
import Ambient.Proofs.Symbol.Same
import Mathlib.Data.List.Basic

namespace Ambient

/-! ## Models that declare symbols -/

/-- A model declares some symbols: each by one entry, in the module of its namespace. -/
structure Model.Declares (model : Model) (symbols : List TypeSymbol) : Prop where
  /-- There is a module for each namespace, in the order in which the namespaces first appear. -/
  names : model.modules.map (·.name) =
    (symbols.map TypeSymbol.moduleName).eraseDupsBy Json.same
  /-- No two modules have one name. -/
  apart : model.modules.Pairwise fun m n => m.name.same n.name = false
  /-- The classes of a module are those of the symbols of its namespace, in their order. -/
  classes : ∀ m ∈ model.modules, m.classes =
    (symbols.filter fun s => s.moduleName.same m.name && !s.isEnum).map TypeSymbol.classEntry
  /-- The enums of a module are those of the symbols of its namespace, in their order. -/
  enums : ∀ m ∈ model.modules, m.enums =
    (symbols.filter fun s => s.moduleName.same m.name && s.isEnum).map TypeSymbol.enumEntry
  /-- There are as many entries as symbols. -/
  count : model.classCount + model.enumCount = symbols.length

namespace Builder

open TypeSymbol

/-! ## Calls -/

/-- A call that adds to a builder. -/
inductive Call where
  | add (symbol : Option TypeSymbol)
  | addAll (symbols : List (Option TypeSymbol))

namespace Call

/-- The symbols that a call adds. -/
def accepted : Call → List TypeSymbol
  | .add symbol => acceptedOf [symbol]
  | .addAll symbols => acceptedOf symbols

/-- What a call leaves behind that failed: an addition nothing new, and an addition of many what the
symbols before the refused one make. -/
def LeavesBehind (b : Builder) (fault : Fault) : Call → Builder → Prop
  | .add symbol, c => admitted symbol = .error fault ∧ c = b
  | .addAll symbols, c => ∃ before refused after, symbols = before ++ refused :: after ∧
      admitted refused = .error fault ∧ b.addAll before = (c, none)

end Call

/-- The builder after a call, and the fault that it failed with if it did. -/
def perform (b : Builder) : Call → Builder × Option Fault
  | .add symbol =>
    match b.add symbol with
    | .ok c => (c, none)
    | .error fault => (b, some fault)
  | .addAll symbols => b.addAll symbols

/-- The builder after some calls, whether they failed or not. -/
def run (calls : List Call) : Builder :=
  calls.foldl (fun b call => (b.perform call).1) empty

/-! ## Calls in a row -/

/-- An addition of one symbol is one of many. -/
theorem perform_add (b : Builder) (symbol : Option TypeSymbol) :
    b.perform (.add symbol) = b.addAll [symbol] := by
  rw [perform]
  cases hadd : b.add symbol with
  | ok c =>
    rw [addAll_cons_of_ok hadd]
    rfl
  | error fault => rw [addAll_cons_of_error hadd]

/-- A call lets the builder see what it accepts, also where it fails. -/
theorem Holds.perform {b : Builder} {seen : List TypeSymbol} (hb : b.Holds seen) (call : Call) :
    (b.perform call).1.Holds (seen ++ call.accepted) := by
  cases call with
  | addAll symbols => exact hb.addAll
  | add symbol =>
    rw [perform_add]
    exact hb.addAll

/-- After some calls the builder has seen what each of them accepted. -/
theorem holds_run (calls : List Call) : (run calls).Holds (calls.flatMap Call.accepted) := by
  -- the calls come one by one from the start, so the last one is split off
  induction calls using List.reverseRecOn with
  | nil => rfl
  | append_singleton calls call ih =>
    rw [run, List.foldl_append, List.flatMap_append, List.flatMap_singleton]
    exact ih.perform call

theorem perform_fails {b c : Builder} {call : Call} {fault : Fault}
    (h : b.perform call = (c, some fault)) :
    call.LeavesBehind b fault c := by
  cases call with
  | addAll symbols => exact addAll_fails h
  | add symbol =>
    rw [perform] at h
    cases hadd : b.add symbol with
    | error fault' =>
      rw [hadd] at h
      cases h
      exact ⟨add_eq_error_iff.mp hadd, rfl⟩
    | ok d =>
      rw [hadd] at h
      cases h

/-! ## The model of a builder -/

theorem admitted_of_mem_accepted {s : TypeSymbol} {call : Call} (h : s ∈ call.accepted) :
    admitted (some s) = .ok s := by
  cases call <;> exact admitted_of_mem_acceptedOf h

/-- A module has one entry for each of its symbols. -/
theorem length_ofSymbols (name : Json) (symbols : List TypeSymbol) :
    (Module.ofSymbols name symbols).classes.length + (Module.ofSymbols name symbols).enums.length =
      symbols.length := by
  have hsplit := List.length_eq_length_filter_add (l := symbols) (·.isEnum)
  simp only [Module.ofSymbols, List.length_map]
  omega

/-- The modules of some groups have one entry for each symbol in a group. -/
theorem length_entries (groups : List (Json × List TypeSymbol)) :
    ((groups.map fun (name, symbols) => Module.ofSymbols name symbols).flatMap (·.classes)).length +
      ((groups.map fun (name, symbols) => Module.ofSymbols name symbols).flatMap (·.enums)).length =
      (groups.flatMap (·.2)).length := by
  induction groups with
  | nil => rfl
  | cons group rest ih =>
    have hfirst := length_ofSymbols group.1 group.2
    simp only [List.map_cons, List.flatMap_cons, List.length_append] at ih ⊢
    omega

/-- The model of a builder declares its symbols. -/
theorem declares_build {symbols : List TypeSymbol} (h : ∀ s ∈ symbols, s.IsKeyed) :
    (build { symbols }).Declares symbols := by
  have htells := tells_moduleName h
  have hmodules := build_modules h
  -- the symbols of a module are those whose namespace is the same key as its name
  have hfilter : ∀ name ∈ (symbols.map moduleName).eraseDupsBy Json.same,
      symbols.filter (name.same ·.moduleName) = symbols.filter (·.moduleName.same name) := by
    intro name hname
    refine List.filter_congr fun s hs => ?_
    exact htells.symm (Distinct.mem_of_mem hname) (List.mem_map_of_mem hs)
  constructor
  case names =>
    rw [hmodules, List.map_map]
    simp [Function.comp_def, Module.ofSymbols]
  case apart =>
    rw [hmodules, List.pairwise_map]
    exact Distinct.pairwise_apart htells
  case classes =>
    intro m hm
    rw [hmodules] at hm
    obtain ⟨name, hname, rfl⟩ := List.mem_map.mp hm
    simp only [Module.ofSymbols, hfilter name hname, List.filter_filter, Bool.and_comm]
  case enums =>
    intro m hm
    rw [hmodules] at hm
    obtain ⟨name, hname, rfl⟩ := List.mem_map.mp hm
    simp only [Module.ofSymbols, hfilter name hname, List.filter_filter, Bool.and_comm]
  case count =>
    rw [Model.classCount, Model.enumCount, build, length_entries, Grouping.length_ofList,
      List.length_map]

/-! ## Any calls -/

/-- What is known of a builder after some calls. -/
structure Account (calls : List Call) (b : Builder) : Prop where
  /-- It holds the distinct symbols of all that were accepted, in the order of their first
  acceptance. -/
  symbols : b.symbols = (calls.flatMap Call.accepted).eraseDupsBy TypeSymbol.same
  /-- Its model declares these symbols. -/
  declares : b.build.Declares b.symbols
  /-- It counts as many symbols as there are entries in its model. -/
  size : b.build.classCount + b.build.enumCount = b.size
  /-- Symbols without a namespace go to the module of that name. -/
  unnamed : ∀ s ∈ b.symbols, s.scope = .null ∨ s.scope = .str "" → s.moduleName = .str "Global"
  /-- Symbols with a namespace go to its module. -/
  named : ∀ s ∈ b.symbols, ∀ name, s.scope = .str name → name ≠ "" → s.moduleName = .str name
  /-- Entries have the names of their symbols, without arity markers. -/
  entryNames : ∀ s ∈ b.symbols,
    s.classEntry.name = s.simpleName ∧ s.enumEntry.name = s.simpleName
  /-- The entry of an enum has the values of its symbol, in their order. -/
  members : ∀ s ∈ b.symbols, s.enumEntry.members.map (fun m => (m.name, m.value)) =
    s.values.map fun v => (v.name, .int v.value)
  /-- An entry has as many type parameters as the arity of its symbol tells. -/
  arity : ∀ s ∈ b.symbols, s.arity = .ok s.classEntry.parameters.length
  /-- Only what is generic has type parameters, and these are those of its symbol. -/
  parameters : ∀ s ∈ b.symbols, ∃ generic, s.isGenericDefinition = .ok generic ∧
    s.classEntry.parameters = if generic then s.parameters else []
  /-- An entry has the public members that are neither static nor indexers, in their order. -/
  properties : ∀ s ∈ b.symbols, s.classEntry.properties =
    (s.members.filter fun m => m.isPublic && !m.isStatic && !m.isIndexer).map fun m =>
      { name := m.name, type := m.type }

/-- A call that fails leaves the builder as the symbols before the refused one made it, and whatever
calls there were, the builder holds the distinct symbols that they accepted and builds the model that
declares each of them once. -/
theorem account_run (calls : List Call) :
    (∀ (b c : Builder) (call : Call) (fault : Fault), b.perform call = (c, some fault) →
      call.LeavesBehind b fault c) ∧
      Account calls (run calls) := by
  refine ⟨fun b c call fault h => perform_fails h, ?_⟩
  have hadmitted : ∀ s ∈ calls.flatMap Call.accepted, admitted (some s) = .ok s := by
    intro s hs
    obtain ⟨call, -, hcall⟩ := List.mem_flatMap.mp hs
    exact admitted_of_mem_accepted hcall
  have hsymbols := (holds_run calls).symbols_eq fun s hs => isKeyed_of_admitted (hadmitted s hs)
  -- what the builder holds was accepted by some call
  have hheld : ∀ s ∈ (run calls).symbols, admitted (some s) = .ok s := by
    intro s hs
    rw [hsymbols] at hs
    exact hadmitted s (Distinct.mem_of_mem hs)
  have hdeclares := declares_build fun s hs => isKeyed_of_admitted (hheld s hs)
  constructor
  case symbols => exact hsymbols
  case declares => exact hdeclares
  case size => exact hdeclares.count
  case unnamed =>
    intro s _ hscope
    rcases hscope with h | h <;> (rw [moduleName, h]; rfl)
  case named => exact fun s _ name h hne => moduleName_of_scope h hne
  case entryNames => exact fun s _ => ⟨rfl, rfl⟩
  case members =>
    intro s _
    rw [enumEntry, List.map_map]
    rfl
  case arity => exact fun s hs => arity_of_admitted (hheld s hs)
  case parameters =>
    intro s hs
    refine ⟨s.parameters.length != 0, ?_, ?_⟩
    · rw [isGenericDefinition, arity_of_admitted (hheld s hs)]
      rfl
    · -- no parameters are left out, for what is not generic has none
      show s.parameters = _
      cases s.parameters <;> simp
  case properties => exact fun s _ => rfl

/-- A row that is refused in the middle leaves the symbols before it, and one of these is not added
again. Their model has a class without its hidden member and an enum with its values. -/
theorem account_run_refused :
    let box : TypeSymbol :=
      { name := "Box\x601", scope := .str "Shop", parameters := [.str "T"]
        members := [{ name := .str "Item", type := .ofParameter "T" },
          { name := .str "Count", type := .ofPrimitive .int, isStatic := true }] }
    let status : TypeSymbol :=
      { name := "Status", scope := .str "Shop", kind := .enum
        values := [{ name := .str "Open", value := 2 }, { name := .str "Lost", value := -1 }] }
    let wrong : TypeSymbol := { name := "Pair\x602", parameters := [.str "T"] }
    let row : Call := .addAll [some box, some status, some wrong, none]
    let fault : Fault := .symbol (.arityMismatch "Pair\x602" 2 1)
    let after := run [row, .add (some box)]
    empty.perform row = ({ symbols := [box, status] }, some fault) ∧
      row.LeavesBehind empty fault { symbols := [box, status] } ∧
      Account [row, .add (some box)] after ∧ after.size = 2 ∧
      after.build.modules = [{
        name := .str "Shop"
        classes := [{ name := "Box", parameters := [.str "T"]
                      properties := [{ name := .str "Item", type := .ofParameter "T" }] }]
        enums := [{ name := "Status"
                    members := [{ name := .str "Open", value := .int 2 },
                      { name := .str "Lost", value := .int (-1) }] }] }] := by
  dsimp only
  exact ⟨rfl, (account_run []).1 _ _ _ _ rfl, (account_run _).2, by decide +kernel, by rfl⟩

end Builder

end Ambient
