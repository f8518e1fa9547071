/-
  Ambient.Manifest.Description

  Type descriptions of manifests. A description is a word, or an object whose shape is told by the
  first of its known keys in a fixed order; anything else describes an unknown type.
-/
import Ambient.Symbol.TypeSymbol

namespace Ambient.Manifest

/-! ## Shapes -/

/-- What an object describes, with the values that it is described by. -/
inductive Shape where
  | primitive (word : Json)
  | nullable (description : Json)
  | array (description : Json)
  | list (description : Json)
  | map (descriptions : Json)
  | tuple (descriptions : Json)
  | parameter (name : Json)
  | enumerable
  | named (kind : TypeKind) (name : Json)
  | unknown (name : Json)

/-- The keys that come before the mark of an enumerable type, in order of precedence. -/
def leadingKeys : List (String × (Json → Shape)) :=
  [("primitive", .primitive), ("nullable", .nullable), ("array", .array), ("list", .list),
   ("map", .map), ("tuple", .tuple), ("parameter", .parameter)]

/-- The keys that come after it, in order of precedence. -/
def namingKeys : List (String × (Json → Shape)) :=
  [("class", .named .classType), ("interface", .named .interface), ("struct", .named .struct),
   ("enum", .named .enum), ("generic", .named .classType)]

/-- The shape told by the first key that an object has. -/
def firstShape? (fields : List (String × Json)) : List (String × (Json → Shape)) → Option Shape
  | [] => none
  | (key, shape) :: rest =>
    match Json.field? key fields with
    | some value => some (shape value)
    | none => firstShape? fields rest

/-- Whether an object is marked as enumerable by the truth value and nothing else. -/
def isEnumerable (fields : List (String × Json)) : Bool :=
  match Json.field? "enumerable" fields with
  | some (.bool true) => true
  | _ => false

/-- The shape of an object. -/
def Shape.ofFields (fields : List (String × Json)) : Shape :=
  match firstShape? fields leadingKeys with
  | some shape => shape
  | none =>
    if isEnumerable fields then .enumerable
    else match firstShape? fields namingKeys with
      | some shape => shape
      | none => .unknown (Json.getOr fields "unknown" (.str "unknown"))

/-- The value inside a shape that holds further descriptions. -/
def Shape.inner? : Shape → Option Json
  | .nullable d | .array d | .list d | .map d | .tuple d => some d
  | _ => none

/-- A value told by a list of keys is the value of a field. -/
theorem sizeOf_firstShape_lt {fields : List (String × Json)} {keys : List (String × (Json → Shape))}
    {shape : Shape} {value : Json} (hkeys : ∀ entry ∈ keys, ∀ v w,
      (entry.2 v).inner? = some w → w = v)
    (h : firstShape? fields keys = some shape) (hi : shape.inner? = some value) :
    sizeOf value < sizeOf fields := by
  induction keys with
  | nil => simp [firstShape?] at h
  | cons entry rest ih =>
    obtain ⟨key, make⟩ := entry
    simp only [firstShape?] at h
    split at h
    · rename_i v hv
      cases h
      have := hkeys (key, make) (by simp) v value hi
      subst this
      exact Json.sizeOf_field_lt hv
    · exact ih (fun e he => hkeys e (by simp [he])) h

/-- What is inside the shape of an object is smaller than the object. -/
theorem sizeOf_inner_lt {fields : List (String × Json)} {value : Json}
    (h : (Shape.ofFields fields).inner? = some value) : sizeOf value < sizeOf fields := by
  unfold Shape.ofFields at h
  split at h
  · rename_i shape hs
    refine sizeOf_firstShape_lt ?_ hs h
    simp [leadingKeys, Shape.inner?]
  · split at h
    · simp [Shape.inner?] at h
    · split at h
      · rename_i shape hs
        refine sizeOf_firstShape_lt ?_ hs h
        simp [namingKeys, Shape.inner?]
      · simp [Shape.inner?] at h

/-! ## Types -/

/-- The type that a word describes: a primitive, or an unknown type of that name. -/
def typeOfWord (word : String) : TypeRef :=
  match Primitive.ofWord? word with
  | some p => .ofPrimitive p
  | none => .unknown word false

/-- The form that a named description asks for, or else the one its key tells. -/
def kindOf (fields : List (String × Json)) (kind : TypeKind) : TypeKind :=
  let word := (Json.getOr fields "kind" (.str "")).text.lowered
  match SymbolKind.ofWord? word with
  | some kind => kind.typeKind
  | none => kind

mutual

/-- The type that a manifest value describes. -/
def typeOf (data : Json) : Except Fault TypeRef :=
  match data with
  | .str word => .ok (typeOfWord word)
  | .obj fields =>
    match _hshape : Shape.ofFields fields with
    | .primitive word =>
      match Primitive.ofWord? word.text with
      | some p => .ok (.ofPrimitive p)
      | none => .ok (.unknown "unknown" false)
    | .nullable d => do
      let underlying ← typeOf d
      .ok (.nullableOf underlying)
    | .array d => do
      let element ← typeOf d
      .ok (.arrayOf element)
    | .list d => do
      let element ← typeOf d
      .ok (.named "List" .classType .null [element])
    | .map (.arr [k, v]) => do
      let key ← typeOf k
      let value ← typeOf v
      .ok (.named "Dictionary" .classType .null [key, value])
    | .map ds => .error (.manifest (.mapArguments ds.display))
    | .tuple (.arr items) => do
      let elements ← typesOf items
      .ok (.named "ValueTuple" .struct .null elements)
    | .tuple _ => .ok (.named "ValueTuple" .struct .null [])
    | .parameter name => .ok (.ofParameter name.text)
    | .enumerable => .ok (.unknown "IEnumerable" true)
    | .named kind name => do
      let arguments ← match _harguments : Json.field? "arguments" fields with
        | none => .ok []
        | some (.arr items) => typesOf items
        | some (.obj entries) => .ok (entries.map fun (key, _) => typeOfWord key)
        | some (.str s) => .ok (s.toList.map fun c => typeOfWord c.toString)
        | some value => if value.isTruthy then unsuitable (.notIterable value.kind) else .ok []
      .ok (.named name.text (kindOf fields kind) (Json.getOr fields "namespace" .null) arguments)
    | .unknown name => .ok (.unknown name.text false)
  | _ => .ok (.unknown "unknown" false)
termination_by sizeOf data
decreasing_by
  all_goals first
    | (have h := @sizeOf_inner_lt fields _ (by rw [_hshape]; rfl)
       simp at h ⊢
       omega)
    | (have h := Json.sizeOf_field_lt _harguments
       simp at h ⊢
       omega)

/-- The types that some manifest values describe, up to the first that describes none. -/
def typesOf (data : List Json) : Except Fault (List TypeRef) :=
  match data with
  | [] => .ok []
  | first :: rest => do
    let t ← typeOf first
    let ts ← typesOf rest
    .ok (t :: ts)
termination_by sizeOf data

end

end Ambient.Manifest
