/-
  Ambient.Proofs.Declaration.TypeText

  The texts of types. A type is written from the names in it by a few forms, so a property of texts
  that the names have and that every form keeps holds of the text of every type (`text_of_closed`).
  Types of an obedient model can always be written.
-/
import Ambient.Declaration.TypeExpr
import Ambient.Proofs.Names

namespace Ambient

namespace TypeExpr

/-! ## Obedience -/

/-- The words that stand for primitive types. -/
def basicWords : List String :=
  ["string", "boolean", "number", "Date", "any"]

mutual

/-- Whether the names in a type of the target language obey a rule. -/
def obeys (rule : NameRule) : TypeExpr → Bool
  | .primitive t => basicWords.contains t
  | .array element => obeys rule element
  | .tuple elements => allObey rule elements
  | .map key value => obeys rule key && obeys rule value
  | .reference name scope _ arguments =>
    rule.name name && rule.admitsOptional scope && allObey rule arguments
  | .parameter name => rule.name name
  | .unknown _ => true

/-- Whether some types obey a rule. -/
def allObey (rule : NameRule) : List TypeExpr → Bool
  | [] => true
  | t :: ts => obeys rule t && allObey rule ts

end

variable {rule : NameRule}

theorem primitiveText_mem (p : Primitive) : primitiveText p ∈ basicWords := by
  cases p <;> decide

/-- A collection is made of all arguments or of one. -/
theorem collection?_cases {name : String} {arguments : List TypeExpr} {form : TypeExpr}
    (h : collection? name arguments = some form) :
    form = .tuple arguments ∨ (∃ element, arguments = [element] ∧ form = .array element) ∨
      ∃ key value, arguments = [key, value] ∧ form = .map key value := by
  -- by the number of arguments
  unfold collection? at h
  split at h
  · cases h
  · split at h
    · exact .inl (Option.some.inj h).symm
    · split at h
      · exact .inr (.inl ⟨_, rfl, (Option.some.inj h).symm⟩)
      · cases h
  · split at h
    · exact .inl (Option.some.inj h).symm
    · split at h
      · exact .inr (.inr ⟨_, _, rfl, (Option.some.inj h).symm⟩)
      · cases h
  · split at h
    · exact .inl (Option.some.inj h).symm
    · cases h

theorem collection?_obeys {name : String} {arguments : List TypeExpr} {form : TypeExpr}
    (h : collection? name arguments = some form) (hargs : allObey rule arguments = true) :
    form.obeys rule = true := by
  rcases collection?_cases h with rfl | ⟨element, rfl, rfl⟩ | ⟨key, value, rfl, rfl⟩
  · exact hargs
  · simpa [allObey, obeys] using hargs
  · simpa [allObey, obeys] using hargs

theorem named_obeys {name : String} {kind : TypeKind} {scope : Json} {enumerable : Bool}
    {arguments : List TypeExpr} (hname : rule.name name = true)
    (hscope : rule.admitsOptional scope = true) (hargs : allObey rule arguments = true) :
    (named name kind scope enumerable arguments).obeys rule = true := by
  have href : (reference name scope (kind == .enum) arguments).obeys rule = true := by
    simp [obeys, hname, hscope, hargs]
  unfold named
  dsimp only
  cases hform : (if kind == .enum then none else collection? name arguments) with
  | some form =>
    split at hform
    · cases hform
    · exact collection?_obeys hform hargs
  | none =>
    dsimp only
    split
    · rfl
    · exact href

mutual

/-- Classification makes no names of its own. -/
theorem ofRef_obeys : ∀ t : TypeRef, t.obeys rule = true → (ofRef t).obeys rule = true
  | ⟨name, kind, scope, arguments, basic, enumerable⟩, h => by
    simp only [TypeRef.obeys, Bool.and_eq_true] at h
    obtain ⟨⟨hparam, hnamed⟩, hargs⟩ := h
    have hfirst := ofFirst_obeys arguments hargs
    have hrefs := ofRefs_obeys arguments hargs
    have hdeclared : kind.isNamed = true →
        (named (Arity.strip name) kind scope enumerable (ofRefs arguments)).obeys rule = true := by
      intro hk
      rw [hk] at hnamed
      simp only [Bool.not_true, Bool.false_or, Bool.and_eq_true] at hnamed
      exact named_obeys hnamed.1 hnamed.2 hrefs
    -- a wrapper is what its first argument is, and a declared kind keeps its name
    cases kind with
    | nullable =>
      rw [ofRef]
      cases hf : ofFirst arguments with
      | none => rfl
      | some e => exact hfirst e hf
    | array =>
      rw [ofRef]
      cases hf : ofFirst arguments with
      | none => rfl
      | some e => exact hfirst e hf
    | parameter => simpa [ofRef, obeys] using hparam
    | primitive =>
      cases basic with
      | none => rfl
      | some p => simpa [ofRef, obeys] using primitiveText_mem p
    | unknown => rfl
    | classType => exact hdeclared rfl
    | interface => exact hdeclared rfl
    | struct => exact hdeclared rfl
    | enum => exact hdeclared rfl

theorem ofFirst_obeys : ∀ ts : List TypeRef, TypeRef.allObey rule ts = true →
    ∀ e, ofFirst ts = some e → e.obeys rule = true
  | [], _, e, he => by cases he
  | t :: _, h, e, he => by
    simp only [TypeRef.allObey, Bool.and_eq_true] at h
    cases he
    exact ofRef_obeys t h.1

theorem ofRefs_obeys : ∀ ts : List TypeRef, TypeRef.allObey rule ts = true →
    allObey rule (ofRefs ts) = true
  | [], _ => rfl
  | t :: ts, h => by
    simp only [TypeRef.allObey, Bool.and_eq_true] at h
    simp [ofRefs, allObey, ofRef_obeys t h.1, ofRefs_obeys ts h.2]

end

end TypeExpr

/-! ## Namespaces of a run -/

/-- Whether what the namespaces are called is allowed. -/
def Scopes.obeys (rule : NameRule) (scopes : Scopes) : Bool :=
  scopes.names.all fun (_, name) => rule.admitsScope name

namespace Scopes

variable {rule : NameRule} {scopes : Scopes}

/-- A namespace that is given is called by an allowed name. -/
theorem admitsScope_nameOf (h : scopes.obeys rule = true) {scope : Json}
    (hscope : rule.admitsScope scope = true) : rule.admitsScope (scopes.nameOf scope) = true := by
  unfold nameOf
  split
  · rename_i source name hfound
    exact List.all_eq_true.mp h (source, name) (List.mem_of_find?_eq_some hfound)
  · exact hscope

end Scopes

namespace TypeExpr

/-! ## Properties of all texts of types -/

/-- A property of texts that holds of the words and names in types and is kept by every form in
which types are written. -/
structure Closed (rule : NameRule) (p : String → Prop) : Prop where
  word : ∀ w ∈ basicWords, p w
  name : ∀ {n}, rule.name n = true → p n
  array : ∀ {t}, p t → p (t ++ "[]")
  tuple : ∀ {ts}, (∀ t ∈ ts, p t) → p ("[" ++ String.joinWith ", " ts ++ "]")
  map : ∀ {k v}, p k → p v → p ("\x7b [key: " ++ k ++ "]: " ++ v ++ " \x7d")
  applied : ∀ {n ts}, p n → (∀ t ∈ ts, p t) → p (n ++ "<" ++ String.joinWith ", " ts ++ ">")
  qualified : ∀ {s t}, rule.scope s = true → p t → p (s ++ "." ++ t)
  nullable : ∀ {t}, p t → p (t ++ " | null")

variable {rule : NameRule} {p : String → Prop} {scopes : Scopes}

namespace Closed

theorem bracketed (h : Closed rule p) {n : String} {ts : List String} (hn : p n)
    (hts : ∀ t ∈ ts, p t) : p (n ++ TypeExpr.bracketed ts) := by
  unfold TypeExpr.bracketed
  split
  · rwa [String.append_empty]
  · rw [← String.append_assoc, ← String.append_assoc]
    exact h.applied hn hts

theorem qualify (h : Closed rule p) (hscopes : scopes.obeys rule = true) {t : String} {scope : Json}
    (ht : p t) (hscope : rule.admitsOptional scope = true) : p (scopes.qualify t scope) := by
  unfold Scopes.qualify
  split
  · exact ht
  · -- the namespace is written, so there is one and it is looked up
    rename_i hgiven
    simp only [Bool.or_eq_true, not_or, Bool.not_eq_true, Bool.not_eq_false'] at hgiven
    have hadmit := NameRule.admitsScope_of_isTruthy hscope (by simpa using hgiven.2)
    obtain ⟨s, hs, hrule⟩ :=
      NameRule.admitsScope_iff.mp (Scopes.admitsScope_nameOf hscopes hadmit)
    rw [hs]
    exact h.qualified hrule ht

end Closed

mutual

/-- A property that every form keeps holds of the text of every obedient type. -/
theorem text_of_closed (h : Closed rule p) (hstable : rule.Stable)
    (hscopes : scopes.obeys rule = true) :
    ∀ t : TypeExpr, t.obeys rule = true → p (t.text scopes)
  | .primitive t, ht => h.word t (by simpa [obeys] using ht)
  | .array element, ht => h.array (text_of_closed h hstable hscopes element ht)
  | .tuple elements, ht => h.tuple (texts_of_closed h hstable hscopes elements ht)
  | .map key value, ht => by
    simp only [obeys, Bool.and_eq_true] at ht
    exact h.map (text_of_closed h hstable hscopes key ht.1)
      (text_of_closed h hstable hscopes value ht.2)
  | .reference name scope isEnum arguments, ht => by
    simp only [obeys, Bool.and_eq_true] at ht
    obtain ⟨⟨hname, hscope⟩, hargs⟩ := ht
    -- a class is referred to by its interface name, which is allowed too
    have href : p (referenceName name isEnum) := by
      cases isEnum with
      | true => exact h.name hname
      | false => exact h.name (hstable.interfaceName hname)
    exact h.qualify hscopes
      (h.bracketed href (texts_of_closed h hstable hscopes arguments hargs)) hscope
  | .parameter name, ht => h.name ht
  | .unknown enumerable, _ => by
    have hany : p "any" := h.word "any" (by decide)
    cases enumerable with
    | true => exact h.array hany
    | false => exact hany

theorem texts_of_closed (h : Closed rule p) (hstable : rule.Stable)
    (hscopes : scopes.obeys rule = true) :
    ∀ ts : List TypeExpr, allObey rule ts = true → ∀ s ∈ texts scopes ts, p s
  | [], _, s, hs => by cases hs
  | t :: ts, ht, s, hs => by
    simp only [allObey, Bool.and_eq_true] at ht
    rcases List.mem_cons.mp hs with rfl | hmem
    · exact text_of_closed h hstable hscopes t ht.1
    · exact texts_of_closed h hstable hscopes ts ht.2 s hmem

end

/-! ## Writing never fails -/

mutual

theorem admitsOptional_of_mem_lookups : ∀ t : TypeExpr, t.obeys rule = true →
    ∀ scope ∈ t.lookups, rule.admitsOptional scope = true
  | .primitive _, _, scope, hs => by cases hs
  | .array element, ht, scope, hs => admitsOptional_of_mem_lookups element ht scope hs
  | .tuple elements, ht, scope, hs => admitsOptional_of_mem_allLookups elements ht scope hs
  | .map key value, ht, scope, hs => by
    simp only [obeys, Bool.and_eq_true] at ht
    rcases List.mem_append.mp hs with hk | hv
    · exact admitsOptional_of_mem_lookups key ht.1 scope hk
    · exact admitsOptional_of_mem_lookups value ht.2 scope hv
  | .reference _ own _ arguments, ht, scope, hs => by
    simp only [obeys, Bool.and_eq_true] at ht
    rcases List.mem_append.mp hs with ha | ho
    · exact admitsOptional_of_mem_allLookups arguments ht.2 scope ha
    · rw [List.mem_singleton.mp ho]
      exact ht.1.2
  | .parameter _, _, scope, hs => by cases hs
  | .unknown _, _, scope, hs => by cases hs

theorem admitsOptional_of_mem_allLookups : ∀ ts : List TypeExpr, allObey rule ts = true →
    ∀ scope ∈ allLookups ts, rule.admitsOptional scope = true
  | [], _, scope, hs => by cases hs
  | t :: ts, ht, scope, hs => by
    simp only [allObey, Bool.and_eq_true] at ht
    rcases List.mem_append.mp hs with h1 | h2
    · exact admitsOptional_of_mem_lookups t ht.1 scope h1
    · exact admitsOptional_of_mem_allLookups ts ht.2 scope h2

end

/-- A type whose namespaces are absent or allowed names can be written, for names can be looked up. -/
theorem text?_of_admitsOptional {t : TypeExpr}
    (h : ∀ scope ∈ t.lookups, rule.admitsOptional scope = true) :
    t.text? scopes = .ok (t.text scopes) := by
  have hnone : t.lookups.find?
      (fun scope => !scopes.isSingle && scope.isTruthy && !scope.isKey) = none := by
    rw [List.find?_eq_none]
    intro scope hscope hbad
    simp only [Bool.and_eq_true, Bool.not_eq_true'] at hbad
    -- a namespace that is given is a name
    have hadmit := NameRule.admitsScope_of_isTruthy (h scope hscope) hbad.1.2
    obtain ⟨s, rfl, -⟩ := NameRule.admitsScope_iff.mp hadmit
    cases hbad.2
  rw [text?, hnone]

/-- An obedient type can be written. -/
theorem text?_of_obeys {t : TypeExpr} (ht : t.obeys rule = true) :
    t.text? scopes = .ok (t.text scopes) :=
  text?_of_admitsOptional (admitsOptional_of_mem_lookups t ht)

end TypeExpr

/-- The type of an obedient property can be written. -/
theorem TypeRef.text?_of_obeys {rule : NameRule} {scopes : Scopes} {t : TypeRef}
    (ht : t.obeys rule = true) : t.text? scopes = .ok ((TypeExpr.ofRef t).text scopes) :=
  TypeExpr.text?_of_obeys (TypeExpr.ofRef_obeys t ht)

end Ambient
