/-
  Ambient.Proofs.Manifest.WellFormed

  Types that come from descriptions. Each shape makes a well-formed type out of well-formed ones, so
  all nodes of a type that is read are well formed, whatever values the description holds
  (`typeOf_wellFormed`). The classification of such a type finds all that it asks for: nowhere does
  it fall back on an unknown form for an inner type or a primitive that is missing.
-/
import Ambient.Proofs.Manifest.Refusals
import Ambient.Proofs.Manifest.Translation

namespace Ambient

/-! ## Nodes -/

namespace TypeRef

/-- A type occurs in another one as the whole of it or in one of its arguments, at any depth. -/
inductive Occurs : TypeRef → TypeRef → Prop where
  | root {t : TypeRef} : Occurs t t
  | inside {u a t : TypeRef} (ha : a ∈ t.arguments) (hu : Occurs u a) : Occurs u t

theorem Occurs.trans {s t u : TypeRef} (hs : Occurs s t) (ht : Occurs t u) : Occurs s u := by
  induction ht with
  | root => exact hs
  | inside ha _ ih => exact .inside ha ih

/-- What one node of a type may be: wrappers have one inner type, primitive types are known and
stand alone, as do parameters and unknown types, the latter are the only ones that can be marked as
enumerable, and the name of a declared type with arguments has an arity marker. -/
structure IsWellFormed (t : TypeRef) : Prop where
  wrapper : t.kind = .array ∨ t.kind = .nullable → ∃ inner, t.arguments = [inner]
  primitive : t.kind = .primitive →
    t.arguments = [] ∧ ∃ p, t.primitive = some p ∧ TypeExpr.primitiveText p ≠ ""
  alone : t.kind = .parameter ∨ t.kind = .unknown → t.arguments = []
  enumerable : t.enumerable = true → t.kind = .unknown
  marked : t.kind.isNamed = true → t.arguments ≠ [] → Arity.isMarked t.name = true

/-- Whether all nodes of a type are well formed. -/
def IsSound (t : TypeRef) : Prop :=
  ∀ u, Occurs u t → u.IsWellFormed

theorem isSound_iff {t : TypeRef} :
    t.IsSound ↔ t.IsWellFormed ∧ ∀ a ∈ t.arguments, a.IsSound := by
  constructor
  · intro h
    exact ⟨h t .root, fun a ha u hu => h u (.inside ha hu)⟩
  · rintro ⟨ht, hargs⟩ u (- | ⟨ha, hu⟩)
    · exact ht
    · exact hargs _ ha u hu

/-! ## Constructors -/

theorem primitiveText_ne_empty (p : Primitive) : TypeExpr.primitiveText p ≠ "" := by
  cases p <;> decide

theorem isSound_ofPrimitive (p : Primitive) : (ofPrimitive p).IsSound := by
  refine isSound_iff.mpr ⟨?_, by simp [ofPrimitive]⟩
  constructor <;> simp [ofPrimitive, primitiveText_ne_empty, TypeKind.isNamed]

theorem isSound_unknown (name : String) (enumerable : Bool) :
    (unknown name enumerable).IsSound := by
  refine isSound_iff.mpr ⟨?_, by simp [unknown]⟩
  constructor <;> simp [unknown, TypeKind.isNamed]

theorem isSound_ofParameter (name : String) : (ofParameter name).IsSound := by
  refine isSound_iff.mpr ⟨?_, by simp [ofParameter]⟩
  constructor <;> simp [ofParameter, TypeKind.isNamed]

theorem isSound_arrayOf {t : TypeRef} (ht : t.IsSound) : (arrayOf t).IsSound := by
  refine isSound_iff.mpr ⟨?_, by simpa [arrayOf] using ht⟩
  constructor <;> simp [arrayOf, TypeKind.isNamed]

theorem isSound_nullableOf {t : TypeRef} (ht : t.IsSound) : (nullableOf t).IsSound := by
  refine isSound_iff.mpr ⟨?_, by simpa [nullableOf] using ht⟩
  constructor <;> simp [nullableOf, TypeKind.isNamed]

/-- A name with a marker is marked. -/
theorem isMarked_mark (name : String) (arity : Nat) :
    Arity.isMarked (Arity.mark name arity) = true := by
  simp [Arity.isMarked, Arity.mark]

theorem isSound_named {name : String} {kind : TypeKind} (hkind : kind.isNamed = true) (scope : Json)
    {arguments : List TypeRef} (h : ∀ a ∈ arguments, a.IsSound) :
    (named name kind scope arguments).IsSound := by
  refine isSound_iff.mpr ⟨?_, h⟩
  constructor
  case wrapper | primitive | alone =>
    cases kind <;> simp [named, TypeKind.isNamed] at hkind ⊢
  case enumerable => simp [named]
  case marked =>
    intro _ hne
    have hne : arguments.isEmpty = false := by
      rw [List.isEmpty_eq_false_iff]
      exact hne
    cases hmarked : Arity.isMarked name with
    | true => simp [named, hmarked]
    | false => simp [named, hmarked, hne, isMarked_mark]

end TypeRef

/-! ## Forms that lack nothing -/

namespace TypeExpr

mutual

/-- The form of a member type, if nothing is missing that it is made of: a nullable type and an
array have something inside, and a primitive type is known, at every place that the form depends
on. -/
def ofRef? : TypeRef → Option TypeExpr
  | ⟨name, kind, scope, arguments, basic, enumerable⟩ =>
    match kind with
    | .nullable => ofFirst? arguments
    | .array => (ofFirst? arguments).map .array
    | .parameter => some (.parameter name)
    | .primitive => basic.map fun p => .primitive (primitiveText p)
    | .classType | .interface | .struct | .enum =>
      (ofRefs? arguments).map (named (Arity.strip name) kind scope enumerable)
    | .unknown => some (.unknown enumerable)

/-- The form of the first of some member types, if there is one and nothing is missing in it. -/
def ofFirst? : List TypeRef → Option TypeExpr
  | [] => none
  | t :: _ => ofRef? t

/-- The forms of some member types, if nothing is missing in any of them. -/
def ofRefs? : List TypeRef → Option (List TypeExpr)
  | [] => some []
  | t :: ts =>
    match ofRef? t, ofRefs? ts with
    | some form, some forms => some (form :: forms)
    | _, _ => none

end

theorem ofRefs?_eq_some {ts : List TypeRef} (h : ∀ t ∈ ts, ofRef? t = some (ofRef t)) :
    ofRefs? ts = some (ofRefs ts) := by
  induction ts with
  | nil => rfl
  | cons t ts ih =>
    rw [ofRefs?, h t (by simp), ih fun u hu => h u (by simp [hu])]
    rfl

/-- Where one node is well formed and nothing is missing in its arguments, nothing is missing. -/
theorem ofRef?_eq_some {t : TypeRef} (ht : t.IsWellFormed)
    (hargs : ∀ a ∈ t.arguments, ofRef? a = some (ofRef a)) : ofRef? t = some (ofRef t) := by
  obtain ⟨name, kind, scope, arguments, basic, enumerable⟩ := t
  have hrefs : ofRefs? arguments = some (ofRefs arguments) := ofRefs?_eq_some hargs
  -- wrappers ask for an argument and primitive types for a basic one, and others for nothing
  cases kind with
  | nullable =>
    obtain ⟨inner, rfl⟩ : ∃ inner, arguments = [inner] := ht.wrapper (.inr rfl)
    have hinner : ofRef? inner = some (ofRef inner) := hargs inner (by simp)
    rw [ofRef?, ofFirst?, hinner]
    rfl
  | array =>
    obtain ⟨inner, rfl⟩ : ∃ inner, arguments = [inner] := ht.wrapper (.inl rfl)
    have hinner : ofRef? inner = some (ofRef inner) := hargs inner (by simp)
    rw [ofRef?, ofFirst?, hinner]
    rfl
  | primitive =>
    obtain ⟨-, p, hp, -⟩ := ht.primitive rfl
    have hbasic : basic = some p := hp
    rw [hbasic]
    rfl
  | parameter | unknown => rfl
  | classType | interface | struct | enum =>
    rw [ofRef?, hrefs]
    rfl

/-- Nothing is missing in a sound type. -/
theorem ofRef?_of_isSound (t : TypeRef) (h : t.IsSound) : ofRef? t = some (ofRef t) := by
  obtain ⟨ht, hargs⟩ := TypeRef.isSound_iff.mp h
  refine ofRef?_eq_some ht fun a ha => ?_
  have : sizeOf a < sizeOf t := by
    have hmem := List.sizeOf_lt_of_mem ha
    cases t
    simp only [TypeRef.mk.sizeOf_spec]
    simp only at hmem
    omega
  exact ofRef?_of_isSound a (hargs a ha)
termination_by sizeOf t

end TypeExpr

/-! ## Descriptions -/

namespace Manifest

theorem typeOfWord_isSound (word : String) : (typeOfWord word).IsSound := by
  rw [typeOfWord]
  split
  · exact TypeRef.isSound_ofPrimitive _
  · exact TypeRef.isSound_unknown _ _

theorem isNamed_typeKind (kind : SymbolKind) : kind.typeKind.isNamed = true := by
  cases kind <;> rfl

theorem isNamed_kindOf {kind : TypeKind} (h : kind.isNamed = true) (fields : List (String × Json)) :
    (kindOf fields kind).isNamed = true := by
  rw [kindOf]
  split
  · exact isNamed_typeKind _
  · exact h

/-- The shape of a named type names a kind that a declared type can have. -/
theorem isNamed_of_firstShape? {fields : List (String × Json)}
    {keys : List (String × (Json → Shape))} {kind : TypeKind} {name : Json}
    (hkeys : ∀ entry ∈ keys, ∀ v kind name, entry.2 v = .named kind name → kind.isNamed = true)
    (h : firstShape? fields keys = some (.named kind name)) : kind.isNamed = true := by
  induction keys with
  | nil => cases h
  | cons entry rest ih =>
    rw [firstShape?] at h
    split at h
    · exact hkeys entry (by simp) _ kind name (Option.some.inj h)
    · exact ih (fun e he => hkeys e (by simp [he])) h

theorem isNamed_of_ofFields {fields : List (String × Json)} {kind : TypeKind} {name : Json}
    (h : Shape.ofFields fields = .named kind name) : kind.isNamed = true := by
  rw [Shape.ofFields] at h
  split at h
  case h_1 shape hshape =>
    subst h
    exact isNamed_of_firstShape? (by simp [leadingKeys]) hshape
  case h_2 =>
    split at h
    case isTrue => cases h
    case isFalse =>
      split at h
      case h_1 shape hshape =>
        subst h
        refine isNamed_of_firstShape? ?_ hshape
        simp +contextual [namingKeys, TypeKind.isNamed]
      case h_2 => cases h

/-- The types of some descriptions are sound if those of each are. -/
theorem typesOf_isSound {data : List Json} {ts : List TypeRef}
    (h : ∀ d ∈ data, ∀ t, typeOf d = .ok t → t.IsSound) (hts : typesOf data = .ok ts) :
    ∀ t ∈ ts, t.IsSound := by
  intro t ht
  rw [typesOf_eq_mapM] at hts
  obtain ⟨d, hd, hread⟩ := exists_of_mem_mapM_ok hts ht
  exact h d hd t hread

/-- What a description that names a type is read as: the arguments are types of words, or of the
descriptions inside it. -/
theorem eq_named_of_typeOf {fields : List (String × Json)} {kind : TypeKind} {name : Json}
    {t : TypeRef} (hshape : Shape.ofFields fields = .named kind name)
    (ht : typeOf (.obj fields) = .ok t) :
    ∃ arguments, t = .named name.text (kindOf fields kind) (Json.getOr fields "namespace" .null)
        arguments ∧
      ∀ a ∈ arguments, (∃ word, a = typeOfWord word) ∨
        ∃ d ∈ partsOf (.obj fields), typeOf d = .ok a := by
  rw [typeOf] at ht
  split at ht
  -- only the shape of a named type is left
  all_goals
    rename_i hread
    rw [hread] at hshape
    cases hshape
  -- by what is given for the arguments
  dsimp only at ht
  split at ht
  all_goals rename_i hfield
  case h_1 =>
    cases ht
    exact ⟨[], rfl, by simp⟩
  case h_2 items =>
    obtain ⟨arguments, hitems, ht⟩ := bind_eq_ok ht
    cases ht
    refine ⟨arguments, rfl, fun a ha => .inr ?_⟩
    rw [typesOf_eq_mapM] at hitems
    simpa only [partsOf, hread, Shape.parts, hfield] using exists_of_mem_mapM_ok hitems ha
  case h_3 entries =>
    cases ht
    exact ⟨_, rfl, List.forall_mem_map.mpr fun entry _ => .inl ⟨entry.1, rfl⟩⟩
  case h_4 text =>
    cases ht
    exact ⟨_, rfl, List.forall_mem_map.mpr fun c _ => .inl ⟨c.toString, rfl⟩⟩
  case h_5 value _ _ _ =>
    split at ht <;> cases ht
    exact ⟨[], rfl, by simp⟩

/-- The type of a description is sound if those of the descriptions inside it are. -/
theorem isSound_of_parts {data : Json}
    (h : ∀ d ∈ partsOf data, ∀ t, typeOf d = .ok t → t.IsSound) :
    ∀ t, typeOf data = .ok t → t.IsSound := by
  intro t ht
  cases data with
  | obj fields =>
    have hread := ht
    rw [partsOf] at h
    -- one case for each shape that an object can have
    rw [typeOf] at ht
    split at ht
    all_goals
      rename_i hshape
      rw [hshape] at h
    case h_1 =>
      split at ht <;> cases ht
      · exact TypeRef.isSound_ofPrimitive _
      · exact TypeRef.isSound_unknown _ _
    case h_2 d =>
      obtain ⟨underlying, hd, ht⟩ := bind_eq_ok ht
      cases ht
      exact TypeRef.isSound_nullableOf (h d (List.mem_singleton_self d) _ hd)
    case h_3 d =>
      obtain ⟨element, hd, ht⟩ := bind_eq_ok ht
      cases ht
      exact TypeRef.isSound_arrayOf (h d (List.mem_singleton_self d) _ hd)
    case h_4 d =>
      obtain ⟨element, hd, ht⟩ := bind_eq_ok ht
      cases ht
      have helement : element.IsSound := h d (List.mem_singleton_self d) _ hd
      exact TypeRef.isSound_named rfl _ (by simpa using helement)
    case h_5 k v =>
      obtain ⟨key, hk, ht⟩ := bind_eq_ok ht
      obtain ⟨value, hv, ht⟩ := bind_eq_ok ht
      cases ht
      have hkey : key.IsSound := h k (by simp [Shape.parts]) _ hk
      have hvalue : value.IsSound := h v (by simp [Shape.parts]) _ hv
      exact TypeRef.isSound_named rfl _ (by simp [hkey, hvalue])
    case h_6 => cases ht
    case h_7 items =>
      obtain ⟨elements, hitems, ht⟩ := bind_eq_ok ht
      cases ht
      exact TypeRef.isSound_named rfl _ (typesOf_isSound h hitems)
    case h_8 =>
      cases ht
      exact TypeRef.isSound_named rfl _ (by simp)
    case h_9 =>
      cases ht
      exact TypeRef.isSound_ofParameter _
    case h_10 =>
      cases ht
      exact TypeRef.isSound_unknown _ _
    case h_11 kind name =>
      -- arguments are words or descriptions, and the kind is one of named types
      have hkind := isNamed_kindOf (isNamed_of_ofFields hshape) fields
      obtain ⟨arguments, rfl, hargs⟩ := eq_named_of_typeOf hshape hread
      refine TypeRef.isSound_named hkind _ fun a ha => ?_
      rcases hargs a ha with ⟨word, rfl⟩ | ⟨d, hd, hinner⟩
      · exact typeOfWord_isSound word
      · rw [partsOf, hshape] at hd
        exact h d hd a hinner
    case h_12 =>
      cases ht
      exact TypeRef.isSound_unknown _ _
  | str word =>
    rw [typeOf] at ht
    cases ht
    exact typeOfWord_isSound word
  | _ =>
    rw [typeOf] at ht
    · cases ht
      exact TypeRef.isSound_unknown _ _
    all_goals simp

/-- The type of every description is sound. -/
theorem typeOf_isSound {data : Json} {t : TypeRef} (h : typeOf data = .ok t) : t.IsSound :=
  parts_induction (motive := fun data => ∀ t, typeOf data = .ok t → t.IsSound)
    (fun _ => isSound_of_parts) data t h

/-- Every type that is read from a description is well formed at every node, and the classification
of it, and of each of its nodes, finds all that it asks for. -/
theorem typeOf_wellFormed {data : Json} {t : TypeRef} (h : typeOf data = .ok t) :
    ∀ u, TypeRef.Occurs u t →
      u.IsWellFormed ∧ TypeExpr.ofRef? u = some (TypeExpr.ofRef u) := by
  intro u hu
  have hsound : u.IsSound := fun v hv => typeOf_isSound h v (hv.trans hu)
  exact ⟨hsound u .root, TypeExpr.ofRef?_of_isSound u hsound⟩

/-- A generic type in an array, under a map that may be null. -/
theorem typeOf_wellFormed_nested :
    let named : Json := .obj [("class", .str "Result"), ("arguments", .arr [.str "Guid"])]
    let array : Json := .obj [("array", named)]
    let data : Json := .obj [("nullable", .obj [("map", .arr [.str "int", array])])]
    let result := TypeRef.named "Result" .classType .null [.ofPrimitive .guid]
    let map := TypeRef.named "Dictionary" .classType .null [.ofPrimitive .int, .arrayOf result]
    typeOf data = .ok (.nullableOf map) ∧ TypeRef.Occurs result (.nullableOf map) ∧
      result.IsWellFormed ∧ result.name = "Result`1" ∧
      TypeExpr.ofRef? (.nullableOf map) = some (.map (.primitive "number")
        (.array (.reference "Result" .null false [.primitive "string"]))) := by
  intro named array data result map
  have hword : ∀ {word : String} {p : Primitive}, Primitive.ofWord? word = some p →
      typeOf (.str word) = .ok (.ofPrimitive p) := by
    intro word p hp
    rw [typeOf, typeOfWord, hp]
  have hguid : typeOf (.str "Guid") = .ok (.ofPrimitive .guid) := hword (by decide +kernel)
  have hint : typeOf (.str "int") = .ok (.ofPrimitive .int) := hword (by decide +kernel)
  have harguments : typesOf [.str "Guid"] = .ok [.ofPrimitive .guid] := by
    rw [typesOf, hguid, typesOf]
    rfl
  have hnamed : typeOf named = .ok result :=
    typeOf_named (tells_cons (by decide)) rfl (by decide) rfl rfl harguments
  have harray : typeOf array = .ok (.arrayOf result) := typeOf_array (tells_cons (by simp)) hnamed
  have hdata : typeOf data = .ok (.nullableOf map) :=
    typeOf_nullable (tells_cons (by simp)) (typeOf_map (tells_cons (by simp)) hint harray)
  have hinner : TypeRef.Occurs result (.arrayOf result) :=
    .inside (List.mem_singleton_self result) .root
  have hmember : TypeRef.arrayOf result ∈ map.arguments :=
    List.mem_cons_of_mem _ (List.mem_singleton_self _)
  have hresult : TypeRef.Occurs result (.nullableOf map) :=
    .inside (List.mem_singleton_self map) (.inside hmember hinner)
  have hresultForm :
      TypeExpr.ofRef result = .reference "Result" .null false [.primitive "string"] := by
    rw [TypeExpr.ofRef_named rfl _ (by decide), Arity.strip_of_unmarked (by decide)]
    rfl
  have hform : TypeExpr.ofRef (.nullableOf map) = .map (.primitive "number")
      (.array (.reference "Result" .null false [.primitive "string"])) := by
    show TypeExpr.ofRef map = _
    rw [TypeExpr.ofRef_named rfl _ (by decide), Arity.strip_of_unmarked (by decide), ← hresultForm]
    rfl
  refine ⟨hdata, hresult, (typeOf_wellFormed hdata result hresult).1, by decide, ?_⟩
  rw [(typeOf_wellFormed hdata _ .root).2, hform]

end Manifest

end Ambient
