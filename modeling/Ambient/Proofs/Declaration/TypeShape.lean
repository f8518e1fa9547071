/-
  Ambient.Proofs.Declaration.TypeShape

  The text of a type read back. A type is written as the text of its shape, so two types whose names
  are identifiers have the same text exactly if they are put together alike of the same words
  (`text?_eq_iff_shape_eq`).
-/
import Ambient.Proofs.Declaration.Shape
import Ambient.Proofs.Declaration.TypeText
import Ambient.Proofs.Text.Lines

namespace Ambient

/-! ## Shapes of types -/

namespace TypeExpr

mutual

/-- How a type is put together in a run: words with the names of their namespaces, and a list of
anything as an array. -/
def shape (scopes : Scopes) : TypeExpr → Shape
  | .primitive t => .named t []
  | .array element => .array (shape scopes element)
  | .tuple elements => .tuple (shapes scopes elements)
  | .map key value => .map (shape scopes key) (shape scopes value)
  | .reference name scope isEnum arguments =>
    .named (scopes.qualify (referenceName name isEnum) scope) (shapes scopes arguments)
  | .parameter name => .named name []
  | .unknown enumerable => if enumerable then .array (.named "any" []) else .named "any" []

/-- How some types are put together. -/
def shapes (scopes : Scopes) : List TypeExpr → List Shape
  | [] => []
  | t :: ts => shape scopes t :: shapes scopes ts

end

/-- The namespace stands before the name, whatever follows the name. -/
theorem qualify_append (scopes : Scopes) (name rest : String) (scope : Json) :
    scopes.qualify (name ++ rest) scope = scopes.qualify name scope ++ rest := by
  rw [Scopes.qualify, Scopes.qualify]
  split
  · rfl
  · simp only [String.append_assoc]

mutual

theorem text_shape (scopes : Scopes) : ∀ t : TypeExpr, (t.shape scopes).text = t.text scopes
  | .primitive t => Shape.text_leaf t
  | .array element => by rw [shape, Shape.text, text, text_shape scopes element]
  | .tuple elements => by rw [shape, Shape.text, text, texts_shapes scopes elements]
  | .map key value => by
    rw [shape, Shape.text, text, text_shape scopes key, text_shape scopes value]
  | .reference name scope isEnum arguments => by
    rw [shape, Shape.text, text, texts_shapes scopes arguments, qualify_append]
  | .parameter name => Shape.text_leaf name
  | .unknown enumerable => by cases enumerable <;> rfl

theorem texts_shapes (scopes : Scopes) :
    ∀ ts : List TypeExpr, Shape.texts (shapes scopes ts) = texts scopes ts
  | [] => rfl
  | t :: ts => by rw [shapes, Shape.texts, texts, text_shape scopes t, texts_shapes scopes ts]

end

/-! ## Names in types -/

mutual

/-- The names that a type is written with, those of primitive types among them. -/
def names : TypeExpr → List String
  | .primitive t => [t]
  | .array element => names element
  | .tuple elements => allNames elements
  | .map key value => names key ++ names value
  | .reference name _ _ arguments => name :: allNames arguments
  | .parameter name => [name]
  | .unknown _ => []

/-- The names that some types are written with. -/
def allNames : List TypeExpr → List String
  | [] => []
  | t :: ts => names t ++ allNames ts

end

/-- All names in a type are allowed, and so are its namespaces where they are given. -/
structure IsNamedBy (rule : NameRule) (t : TypeExpr) : Prop where
  names : ∀ name ∈ t.names, rule.name name = true
  scopes : ∀ scope ∈ t.lookups, rule.admitsOptional scope = true

end TypeExpr

/-- A rule that allows only words of types, for names and for namespaces. -/
structure NameRule.Worded (rule : NameRule) : Prop where
  name : ∀ {n : String}, rule.name n = true → Text.isTypeWord n.toList = true
  scope : ∀ {s : String}, rule.scope s = true → Text.isTypeWord s.toList = true

namespace NameRule

/-- No sign is a character of identifiers. -/
theorem isTypeSign_of_isNameChar {c : Char} (h : Text.isNameChar c = true) :
    Text.isTypeSign c = false := by
  rw [← Bool.not_eq_true]
  intro hsign
  simp only [Text.isTypeSign, Bool.or_eq_true, beq_iff_eq] at hsign
  rcases hsign with (((((rfl | rfl) | rfl) | rfl) | rfl) | rfl) | rfl <;> cases h

theorem identifiers_worded : identifiers.Worded where
  name {n} h := by
    refine Text.isTypeWord_iff.mpr ⟨?_, fun c hc =>
      isTypeSign_of_isNameChar (Text.isNameChar_of_mem h hc)⟩
    intro hnil
    have hid : Text.isIdentifier n.toList = true := h
    rw [hnil] at hid
    cases hid
  scope {s} h := by
    obtain ⟨first, rest, hs, -⟩ := Text.exists_cons_of_isDotted h
    refine Text.isTypeWord_iff.mpr ⟨by simp [hs], fun c hc => ?_⟩
    rcases Text.isNameChar_or_dot_of_mem h hc with hchar | rfl
    · exact isTypeSign_of_isNameChar hchar
    · decide

end NameRule

namespace TypeExpr

variable {rule : NameRule} {scopes : Scopes}

theorem isTypeWord_referenceName {name : String} (h : Text.isTypeWord name.toList = true)
    (isEnum : Bool) : Text.isTypeWord (referenceName name isEnum).toList = true := by
  cases isEnum with
  | true => exact h
  | false =>
    rcases Naming.interfaceName_cases name with hname | hname
    · rwa [referenceName, if_neg (by simp), hname]
    · rw [referenceName, if_neg (by simp), hname, String.toList_append]
      refine Text.isTypeWord_append (fun c hc => ?_) h
      obtain rfl : c = 'I' := by simpa using hc
      decide

theorem isTypeWord_qualify (hrule : rule.Worded) (hscopes : scopes.obeys rule = true)
    {name : String} (hname : Text.isTypeWord name.toList = true) {scope : Json}
    (hscope : rule.admitsOptional scope = true) :
    Text.isTypeWord (scopes.qualify name scope).toList = true := by
  rw [Scopes.qualify]
  split
  · exact hname
  · -- the namespace is written, so there is one and it is looked up
    rename_i hgiven
    simp only [Bool.or_eq_true, not_or, Bool.not_eq_true, Bool.not_eq_false'] at hgiven
    obtain ⟨s, hs, hallowed⟩ := NameRule.admitsScope_iff.mp
      (Scopes.admitsScope_nameOf hscopes (NameRule.admitsScope_of_isTruthy hscope (by simpa using hgiven.2)))
    have hchars := (Text.isTypeWord_iff.mp (hrule.scope hallowed)).2
    rw [hs, Json.text_str, String.toList_append]
    refine Text.isTypeWord_append (fun c hc => ?_) hname
    rcases List.mem_append.mp (String.toList_append ▸ hc) with hc | hc
    · exact hchars c hc
    · obtain rfl : c = '.' := by simpa using hc
      decide

mutual

theorem isWorded_shape (hrule : rule.Worded) (hscopes : scopes.obeys rule = true) :
    ∀ t : TypeExpr, (∀ name ∈ t.names, rule.name name = true) →
      (∀ scope ∈ t.lookups, rule.admitsOptional scope = true) → (t.shape scopes).isWorded = true
  | .primitive t, hnames, _ => by
    simpa [shape, Shape.isWorded, Shape.allWorded] using hrule.name (hnames t (by simp [names]))
  | .array element, hnames, hlookups => isWorded_shape hrule hscopes element hnames hlookups
  | .tuple elements, hnames, hlookups => allWorded_shapes hrule hscopes elements hnames hlookups
  | .map key value, hnames, hlookups => by
    simp only [names, lookups, List.forall_mem_append] at hnames hlookups
    rw [shape, Shape.isWorded, isWorded_shape hrule hscopes key hnames.1 hlookups.1,
      isWorded_shape hrule hscopes value hnames.2 hlookups.2]
    rfl
  | .reference name scope isEnum arguments, hnames, hlookups => by
    simp only [names, lookups, List.forall_mem_cons, List.forall_mem_append] at hnames hlookups
    have hword := isTypeWord_qualify hrule hscopes
      (isTypeWord_referenceName (hrule.name hnames.1) isEnum) (hlookups.2.1)
    rw [shape, Shape.isWorded, hword,
      allWorded_shapes hrule hscopes arguments hnames.2 hlookups.1]
    rfl
  | .parameter name, hnames, _ => by
    simpa [shape, Shape.isWorded, Shape.allWorded] using hrule.name (hnames name (by simp [names]))
  | .unknown enumerable, _, _ => by
    have hany : (Shape.named "any" []).isWorded = true := by decide
    cases enumerable <;> exact hany

theorem allWorded_shapes (hrule : rule.Worded) (hscopes : scopes.obeys rule = true) :
    ∀ ts : List TypeExpr, (∀ name ∈ allNames ts, rule.name name = true) →
      (∀ scope ∈ allLookups ts, rule.admitsOptional scope = true) →
      Shape.allWorded (shapes scopes ts) = true
  | [], _, _ => rfl
  | t :: ts, hnames, hlookups => by
    simp only [allNames, allLookups, List.forall_mem_append] at hnames hlookups
    rw [shapes, Shape.allWorded, isWorded_shape hrule hscopes t hnames.1 hlookups.1,
      allWorded_shapes hrule hscopes ts hnames.2 hlookups.2]
    rfl

end

/-- The text of a type tells how it is put together and of what words: in a run whose namespaces have
allowed names, two types with allowed names are written alike exactly if their shapes are the same.
Identifiers, with dots between them for namespaces, are such names (`identifiers_worded`). -/
theorem text?_eq_iff_shape_eq (hrule : rule.Worded) (hscopes : scopes.obeys rule = true)
    {t u : TypeExpr} (ht : t.IsNamedBy rule) (hu : u.IsNamedBy rule) :
    t.text? scopes = u.text? scopes ↔ t.shape scopes = u.shape scopes := by
  have htext : t.text? scopes = .ok (t.text scopes) := text?_of_admitsOptional ht.scopes
  have htext' : u.text? scopes = .ok (u.text scopes) := text?_of_admitsOptional hu.scopes
  have hshape := isWorded_shape hrule hscopes t ht.names ht.scopes
  have hshape' := isWorded_shape hrule hscopes u hu.names hu.scopes
  rw [htext, htext', ← text_shape, ← text_shape]
  constructor
  · intro h
    exact Shape.text_inj hshape hshape' (Except.ok.inj h)
  · intro h
    rw [h]

/-- Two namespaces with one name in the output. -/
def mergedScopes : Scopes where
  names := [(.str "Shop", .str "App.Core"), (.str "Web", .str "App.Core")]

/-- Two types from these namespaces, a map from texts to results each, are told from each other by
their namespaces and by what they say of the names, but not in their texts. -/
theorem text?_eq_iff_shape_eq_merged :
    let t : TypeExpr := .map (.primitive "string") (.reference "Result" (.str "Shop") false
      [.array (.unknown false), .tuple [.parameter "T", .array (.tuple [])]])
    let u : TypeExpr := .map (.parameter "string") (.reference "IResult" (.str "Web") false
      [.unknown true, .tuple [.parameter "T", .array (.tuple [])]])
    NameRule.identifiers.Worded ∧ mergedScopes.obeys .identifiers = true ∧
      t.IsNamedBy .identifiers ∧ u.IsNamedBy .identifiers ∧
      t.shape mergedScopes = u.shape mergedScopes := by
  intro t u
  have hscopes : mergedScopes.obeys .identifiers = true := by decide
  have ht : t.IsNamedBy .identifiers := ⟨by decide, by decide⟩
  have hu : u.IsNamedBy .identifiers := ⟨by decide, by decide⟩
  exact ⟨NameRule.identifiers_worded, hscopes, ht, hu,
    (text?_eq_iff_shape_eq NameRule.identifiers_worded hscopes ht hu).mp (by rfl)⟩

end TypeExpr

end Ambient
