/-
  Ambient.Proofs.Model.Builder

  What building keeps. A builder holds the distinct symbols of those that it has seen (`Holds`), and
  the model that it builds has a module for each distinct namespace with the entries of its symbols.
  So a list of symbols has a model exactly if each of them is admitted, and each has an entry in the
  module of its namespace.
-/
import Ambient.Model.Builder
import Ambient.Proofs.Grouping
import Ambient.Proofs.Keeping
import Ambient.Proofs.Symbol.Same

namespace Ambient

namespace TypeSymbol

/-- Whether a symbol is another one or equal to it. -/
def Stands (t s : TypeSymbol) : Prop :=
  t = s ∨ t.same s = true

namespace Stands

variable {t s : TypeSymbol} (h : t.Stands s)
include h

theorem name : t.name = s.name := by
  rcases h with rfl | h
  · rfl
  · exact (same_parts h).1

theorem kind : t.kind = s.kind := by
  rcases h with rfl | h
  · rfl
  · exact (same_parts h).2.2.1

theorem simpleName : t.simpleName = s.simpleName := by
  rw [TypeSymbol.simpleName, h.name]
  rfl

theorem isEnum : t.isEnum = s.isEnum := by
  rw [TypeSymbol.isEnum, h.kind]
  rfl

/-- A namespace that is a name is that of every equal symbol. -/
theorem scope {name : String} (hs : s.scope = .str name) : t.scope = .str name := by
  rcases h with rfl | h
  · exact hs
  · exact (Json.same_str_iff _ _).mp (hs ▸ (same_parts h).2.1)

end Stands

theorem isKey_moduleName {s : TypeSymbol} (h : s.scope.isKey = true) :
    s.moduleName.isKey = true := by
  unfold moduleName Json.orElse
  split
  · exact h
  · rfl

/-- Equal symbols belong to one module. -/
theorem same_moduleName {s t : TypeSymbol} (hs : s.scope.isKey = true) (ht : t.scope.isKey = true)
    (h : s.same t = true) : s.moduleName.same t.moduleName = true :=
  Json.same_orElse hs ht rfl (same_parts h).2.1

theorem moduleName_of_scope {s : TypeSymbol} {name : String} (h : s.scope = .str name)
    (hne : name ≠ "") : s.moduleName = .str name := by
  have htruthy : s.scope.isTruthy = true := by simpa [h, Json.isTruthy] using hne
  rw [moduleName, Json.orElse, if_pos htruthy, h]

/-- Namespaces that can serve as keys name modules that are told apart by them. -/
theorem tells_moduleName {symbols : List TypeSymbol} (h : ∀ s ∈ symbols, s.IsKeyed) :
    Distinct.Tells Json.same Json.counted (symbols.map moduleName) := by
  refine Json.tells_counted fun key hkey => ?_
  obtain ⟨s, hs, rfl⟩ := List.mem_map.mp hkey
  exact isKey_moduleName (h s hs).scope

end TypeSymbol

namespace Builder

open TypeSymbol

/-! ## Admission -/

/-- A symbol is admitted exactly if it can be told apart from others and its name declares no
arity, or the number of its type parameters. -/
theorem admitted_eq_ok_iff {symbol : Option TypeSymbol} {s : TypeSymbol} :
    admitted symbol = .ok s ↔ symbol = some s ∧ s.IsKeyed ∧
      ∃ declared, Arity.declared s.name = .ok declared ∧
        (declared = 0 ∨ declared = s.parameters.length) := by
  cases symbol with
  | none => exact ⟨fun h => (nomatch h), fun h => (nomatch h.1)⟩
  | some t =>
    constructor
    · intro h
      obtain ⟨declared, hdeclared, h⟩ := bind_eq_ok h
      split at h
      · cases h
      · rename_i harity
        obtain ⟨rfl, hkeyed⟩ := asKey_eq_ok_iff.mp h
        refine ⟨rfl, hkeyed, declared, hdeclared, ?_⟩
        simp only [Bool.and_eq_true, bne_iff_ne, not_and_or, not_not] at harity
        exact harity
    · rintro ⟨heq, hkeyed, declared, hdeclared, harity⟩
      cases heq
      -- the guard is off where the name declares no arity or the right one
      have hguard : (declared != 0 && declared != s.parameters.length) = false := by
        rcases harity with rfl | rfl <;> simp
      rw [admitted, hdeclared]
      show (if declared != 0 && declared != s.parameters.length then _ else s.asKey) = _
      rw [hguard]
      exact asKey_eq_ok_iff.mpr ⟨rfl, hkeyed⟩

theorem isKeyed_of_admitted {symbol : Option TypeSymbol} {s : TypeSymbol}
    (h : admitted symbol = .ok s) : s.IsKeyed :=
  (admitted_eq_ok_iff.mp h).2.1

/-- The arity of a symbol that is admitted is the number of its type parameters. -/
theorem arity_of_admitted {symbol : Option TypeSymbol} {s : TypeSymbol}
    (h : admitted symbol = .ok s) : s.arity = .ok s.parameters.length := by
  obtain ⟨-, -, declared, hdeclared, harity⟩ := admitted_eq_ok_iff.mp h
  rw [arity, hdeclared]
  show Except.ok (if declared == 0 then s.parameters.length else declared) = _
  rcases harity with rfl | rfl
  · rfl
  · split <;> rfl

/-- The symbols of a list up to the first that is refused. -/
def acceptedOf : List (Option TypeSymbol) → List TypeSymbol
  | [] => []
  | symbol :: rest =>
    match admitted symbol with
    | .ok s => s :: acceptedOf rest
    | .error _ => []

/-! ## One symbol -/

/-- The symbols of a builder are the distinct ones of those that it has seen. -/
def Holds (b : Builder) (seen : List TypeSymbol) : Prop :=
  b.symbols = seen.eraseDupsBy fun s t => t.same s

/-- A symbol is added unless it is refused. -/
theorem add_eq_error_iff {b : Builder} {symbol : Option TypeSymbol} {fault : Fault} :
    b.add symbol = .error fault ↔ admitted symbol = .error fault := by
  rw [add]
  cases admitted symbol <;> simp [bind, Except.bind]

theorem add_of_admitted (b : Builder) {symbol : Option TypeSymbol} {s : TypeSymbol}
    (h : admitted symbol = .ok s) : ∃ c, b.add symbol = .ok c :=
  ⟨_, by rw [add, h]; rfl⟩

theorem Holds.add {b : Builder} {seen : List TypeSymbol} (hb : b.Holds seen)
    {symbol : Option TypeSymbol} {s : TypeSymbol} (h : admitted symbol = .ok s) :
    ∃ c, b.add symbol = .ok c ∧ c.Holds (seen ++ [s]) := by
  refine ⟨_, by rw [Builder.add, h]; rfl, ?_⟩
  rw [Holds, Distinct.append_singleton, ← hb]
  show Builder.symbols (if b.symbols.any (·.same s) then b else { symbols := b.symbols ++ [s] }) = _
  split <;> rfl

/-! ## Many symbols -/

variable {b c : Builder} {symbol : Option TypeSymbol} {symbols : List (Option TypeSymbol)}
  {fault : Fault}

/-- An addition of many goes on after the first symbol if that is added. -/
theorem addAll_cons_of_ok (h : b.add symbol = .ok c) :
    b.addAll (symbol :: symbols) = c.addAll symbols := by
  have hbind : (Except.ok symbol >>= b.add) = .ok c := h
  rw [addAll, addWith, hbind]
  rfl

/-- An addition of many ends at the first symbol if that is refused. -/
theorem addAll_cons_of_error (h : b.add symbol = .error fault) :
    b.addAll (symbol :: symbols) = (b, some fault) := by
  have hbind : (Except.ok symbol >>= b.add) = .error fault := h
  rw [addAll, addWith, hbind]

/-- The accepted symbols are seen, also where the addition fails. -/
theorem Holds.addAll {seen : List TypeSymbol} (hb : b.Holds seen) :
    (b.addAll symbols).1.Holds (seen ++ acceptedOf symbols) := by
  induction symbols generalizing b seen with
  | nil =>
    rw [acceptedOf, List.append_nil]
    exact hb
  | cons symbol rest ih =>
    rw [acceptedOf]
    cases hadmitted : admitted symbol with
    | error fault =>
      rw [addAll_cons_of_error (add_eq_error_iff.mpr hadmitted)]
      simpa using hb
    | ok s =>
      obtain ⟨c, hadd, hc⟩ := hb.add hadmitted
      rw [addAll_cons_of_ok hadd]
      simpa using ih hc

/-- An addition of many that fails has added the symbols before the refused one. -/
theorem addAll_fails (h : b.addAll symbols = (c, some fault)) :
    ∃ before refused after, symbols = before ++ refused :: after ∧
      admitted refused = .error fault ∧ b.addAll before = (c, none) := by
  induction symbols generalizing b with
  | nil => cases h
  | cons symbol rest ih =>
    cases hadd : b.add symbol with
    | error fault' =>
      rw [addAll_cons_of_error hadd] at h
      cases h
      exact ⟨[], symbol, rest, rfl, add_eq_error_iff.mp hadd, rfl⟩
    | ok d =>
      rw [addAll_cons_of_ok hadd] at h
      obtain ⟨before, refused, after, rfl, hrefused, hbefore⟩ := ih h
      exact ⟨symbol :: before, refused, after, rfl, hrefused, by rw [addAll_cons_of_ok hadd, hbefore]⟩

theorem admitted_of_mem_acceptedOf {s : TypeSymbol} (h : s ∈ acceptedOf symbols) :
    admitted (some s) = .ok s := by
  induction symbols with
  | nil => cases h
  | cons symbol rest ih =>
    rw [acceptedOf] at h
    cases hadmitted : admitted symbol with
    | error fault =>
      rw [hadmitted] at h
      cases h
    | ok t =>
      rw [hadmitted] at h
      rcases List.mem_cons.mp h with rfl | hrest
      · rw [← (admitted_eq_ok_iff.mp hadmitted).1, hadmitted]
      · exact ih hrest

theorem acceptedOf_map_some {symbols : List TypeSymbol}
    (h : ∀ s ∈ symbols, admitted (some s) = .ok s) : acceptedOf (symbols.map some) = symbols := by
  induction symbols with
  | nil => rfl
  | cons s rest ih =>
    rw [List.map_cons, acceptedOf, h s (by simp), ih fun t ht => h t (by simp [ht])]

/-- An addition of many fails only if a symbol is refused. -/
theorem addAll_snd_eq_none_iff :
    (b.addAll symbols).2 = none ↔ ∀ symbol ∈ symbols, ∃ s, admitted symbol = .ok s := by
  constructor
  · intro h
    induction symbols generalizing b with
    | nil => simp
    | cons symbol rest ih =>
      cases hadmitted : admitted symbol with
      | error fault =>
        rw [addAll_cons_of_error (add_eq_error_iff.mpr hadmitted)] at h
        cases h
      | ok s =>
        obtain ⟨c, hadd⟩ := add_of_admitted b hadmitted
        rw [addAll_cons_of_ok hadd] at h
        exact List.forall_mem_cons.mpr ⟨⟨s, hadmitted⟩, ih h⟩
  · intro h
    cases hadd : b.addAll symbols with
    | mk c failure =>
      cases failure with
      | none => rfl
      | some fault =>
        -- the symbol that ended the row would be one of those that are admitted
        obtain ⟨before, refused, after, rfl, hrefused, -⟩ := addAll_fails hadd
        obtain ⟨s, hs⟩ := h refused (by simp)
        rw [hrefused] at hs
        cases hs

/-- The fault that ends an addition does not depend on the builder, nor on the symbols but by what
refuses them. -/
theorem addAll_snd_congr {b c : Builder} {symbols : List TypeSymbol} {f : TypeSymbol → TypeSymbol}
    (h : ∀ s ∈ symbols, ∀ fault,
      admitted (some (f s)) = .error fault ↔ admitted (some s) = .error fault) :
    (b.addAll ((symbols.map f).map some)).2 = (c.addAll (symbols.map some)).2 := by
  induction symbols generalizing b c with
  | nil => rfl
  | cons s rest ih =>
    simp only [List.map_cons]
    have hs := h s (by simp)
    have hrest : ∀ {b c : Builder}, (b.addAll ((rest.map f).map some)).2 =
        (c.addAll (rest.map some)).2 := ih fun t ht => h t (by simp [ht])
    cases hadd : c.add (some s) with
    | error fault =>
      rw [addAll_cons_of_error hadd,
        addAll_cons_of_error (add_eq_error_iff.mpr ((hs fault).mpr (add_eq_error_iff.mp hadd)))]
    | ok c' =>
      cases hadd' : b.add (some (f s)) with
      | error fault =>
        rw [add_eq_error_iff.mpr ((hs fault).mp (add_eq_error_iff.mp hadd'))] at hadd
        cases hadd
      | ok b' => rw [addAll_cons_of_ok hadd, addAll_cons_of_ok hadd', hrest]

/-- All symbols that a builder has seen are told apart by their parts, so it holds the distinct ones
of them whichever of two is compared with the other. -/
theorem Holds.symbols_eq {seen : List TypeSymbol} (hb : b.Holds seen)
    (hseen : ∀ s ∈ seen, s.IsKeyed) : b.symbols = seen.eraseDupsBy TypeSymbol.same := by
  rw [hb]
  exact Distinct.congr_of fun s hs t ht => (tells_counted hseen).symm ht hs

/-- The modules of a model: one for each distinct namespace, with the symbols of that namespace. -/
theorem build_modules {symbols : List TypeSymbol} (h : ∀ s ∈ symbols, s.IsKeyed) :
    (build { symbols }).modules =
      ((symbols.map moduleName).eraseDupsBy Json.same).map fun name =>
        Module.ofSymbols name (symbols.filter (name.same ·.moduleName)) := by
  have hentries : (symbols.map fun s => (s.moduleName, s)).map (·.1) = symbols.map moduleName := by
    simp [Function.comp_def]
  rw [build, Grouping.ofList_eq (hentries ▸ tells_moduleName h), hentries, List.map_map]
  simp [List.filter_map, Function.comp_def]

end Builder

/-! ## Models of symbols -/

namespace Model

open TypeSymbol

variable {symbols : List TypeSymbol} {model : Model}

/-- Some symbols have a model exactly if each of them is admitted, and it is that of the distinct
ones. -/
theorem ofSymbols_eq_ok_iff :
    Model.ofSymbols symbols = .ok model ↔
      (∀ s ∈ symbols, Builder.admitted (some s) = .ok s) ∧
        model = Builder.build { symbols := symbols.eraseDupsBy TypeSymbol.same } := by
  have hnone : (Builder.empty.addAll (symbols.map some)).2 = none ↔
      ∀ s ∈ symbols, Builder.admitted (some s) = .ok s := by
    rw [Builder.addAll_snd_eq_none_iff, List.forall_mem_map]
    refine forall₂_congr fun s _ => ⟨fun ⟨t, ht⟩ => ?_, fun h => ⟨s, h⟩⟩
    rw [ht, Option.some.inj (Builder.admitted_eq_ok_iff.mp ht).1]
  -- the builder starts empty, so it has seen just the symbols of the list
  have hbuilder : (∀ s ∈ symbols, Builder.admitted (some s) = .ok s) →
      (Builder.empty.addAll (symbols.map some)).1 =
        { symbols := symbols.eraseDupsBy TypeSymbol.same } := by
    intro h
    have hholds : (Builder.empty.addAll (symbols.map some)).1.Holds symbols := by
      have hempty : Builder.empty.Holds [] := rfl
      have hseen : (Builder.empty.addAll (symbols.map some)).1.Holds
          ([] ++ Builder.acceptedOf (symbols.map some)) := hempty.addAll
      rwa [Builder.acceptedOf_map_some h] at hseen
    rw [← hholds.symbols_eq fun s hs => Builder.isKeyed_of_admitted (h s hs)]
  rw [ofSymbols]
  cases hadd : Builder.empty.addAll (symbols.map some) with
  | mk b failure =>
    rw [hadd] at hnone hbuilder
    cases failure with
    | none =>
      have hall := hnone.mp rfl
      rw [← hbuilder hall]
      exact ⟨fun h => ⟨hall, (Except.ok.inj h).symm⟩, fun h => congrArg Except.ok h.2.symm⟩
    | some fault =>
      refine ⟨fun h => (nomatch h), fun h => ?_⟩
      exact nomatch hnone.mpr h.1

/-- Some symbols have no model for the fault that ends their addition. -/
theorem ofSymbols_eq_error_iff {fault : Fault} :
    Model.ofSymbols symbols = .error fault ↔
      (Builder.empty.addAll (symbols.map some)).2 = some fault := by
  rw [ofSymbols]
  rcases Builder.empty.addAll (symbols.map some) with ⟨b, _ | fault'⟩
  · exact ⟨fun h => (nomatch h), fun h => (nomatch h)⟩
  · rw [Except.error.injEq, Option.some.injEq]

/-- The names of the modules can serve as keys. -/
theorem isKey_name (h : Model.ofSymbols symbols = .ok model) :
    ∀ m ∈ model.modules, m.name.isKey = true := by
  obtain ⟨hadmitted, rfl⟩ := ofSymbols_eq_ok_iff.mp h
  have hkeyed : ∀ s ∈ symbols.eraseDupsBy TypeSymbol.same, s.IsKeyed :=
    fun s hs => Builder.isKeyed_of_admitted (hadmitted s (Distinct.mem_of_mem hs))
  intro m hm
  rw [Builder.build_modules hkeyed] at hm
  obtain ⟨name, hname, rfl⟩ := List.mem_map.mp hm
  -- a module is named after one of its symbols
  obtain ⟨s, hs, rfl⟩ := List.mem_map.mp (Distinct.mem_of_mem hname)
  exact isKey_moduleName (hkeyed s hs).scope

/-- Each symbol has an equal one among those of the module of its namespace. -/
theorem exists_module (h : Model.ofSymbols symbols = .ok model) {s : TypeSymbol}
    (hs : s ∈ symbols) {name : String} (hscope : s.scope = .str name) (hne : name ≠ "") :
    ∃ t ∈ symbols, t.Stands s ∧
      ∃ members, t ∈ members ∧ Module.ofSymbols (.str name) members ∈ model.modules := by
  obtain ⟨hadmitted, rfl⟩ := ofSymbols_eq_ok_iff.mp h
  have hkeyed : ∀ s ∈ symbols, s.IsKeyed :=
    fun s hs => Builder.isKeyed_of_admitted (hadmitted s hs)
  obtain ⟨t, ht, hcounted⟩ := Distinct.exists_mem (tells_counted hkeyed) hs
  have htmem := Distinct.mem_of_mem ht
  have hstands : t.Stands s := .inr ((same_iff (hkeyed t htmem) (hkeyed s hs)).mpr hcounted)
  have hdistinct : ∀ u ∈ symbols.eraseDupsBy TypeSymbol.same, u.IsKeyed :=
    fun u hu => hkeyed u (Distinct.mem_of_mem hu)
  -- an equal symbol has the same namespace, so it is in the module of that name
  have hname : t.moduleName = .str name := moduleName_of_scope (hstands.scope hscope) hne
  have hmem : t.moduleName ∈ (symbols.eraseDupsBy TypeSymbol.same).map moduleName :=
    List.mem_map_of_mem ht
  obtain ⟨key, hkey, himage⟩ := Distinct.exists_mem (tells_moduleName hdistinct) hmem
  have hsame := (tells_moduleName hdistinct key (Distinct.mem_of_mem hkey) _ hmem).mpr himage
  rw [hname, Json.same_str_iff] at hsame
  subst hsame
  refine ⟨t, htmem, hstands, (symbols.eraseDupsBy TypeSymbol.same).filter
    ((Json.str name).same ·.moduleName), ?_, ?_⟩
  · rw [List.mem_filter, hname]
    exact ⟨ht, by simp [Json.same]⟩
  · rw [Builder.build_modules hdistinct]
    exact List.mem_map_of_mem hkey

end Model

end Ambient
