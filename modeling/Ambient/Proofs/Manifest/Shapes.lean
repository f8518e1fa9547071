/-
  Ambient.Proofs.Manifest.Shapes

  Objects of one shape. Where an object has exactly one of the keys that tell a shape, that key tells
  it, whatever the order of precedence; the type of the object is then what its shape asks for.
-/
import Ambient.Manifest.Description
import Mathlib.Tactic.Common

namespace Ambient.Manifest

/-! ## One key -/

/-- The keys that tell a shape. -/
def shapeKeys : List String :=
  leadingKeys.map (·.1) ++ "enumerable" :: namingKeys.map (·.1)

/-- An object has a value under one of the keys that tell a shape, and none under the others. -/
structure Tells (fields : List (String × Json)) (key : String) (value : Json) : Prop where
  given : Json.field? key fields = some value
  alone : ∀ other ∈ shapeKeys, other ≠ key → Json.field? other fields = none

variable {fields : List (String × Json)} {key : String} {value : Json}

/-- An object whose other fields tell no shape has one key that tells its shape. -/
theorem tells_cons (h : ∀ field ∈ fields, field.1 ∉ shapeKeys) :
    Tells ((key, value) :: fields) key value := by
  constructor
  case given => simp [Json.field?]
  case alone =>
    intro other hother hne
    rw [Json.field?, if_neg (by simpa using hne.symm)]
    induction fields with
    | nil => rfl
    | cons field rest ih =>
      have hfield : field.1 ≠ other := fun heq => h field (by simp) (heq ▸ hother)
      rw [Json.field?, if_neg (by simpa using hfield)]
      exact ih fun f hf => h f (by simp [hf])

/-- The shape that a list of keys tells is that of the one key that the object has. -/
theorem firstShape?_eq {keys : List (String × (Json → Shape))}
    (hgiven : Json.field? key fields = some value)
    (halone : ∀ entry ∈ keys, entry.1 ≠ key → Json.field? entry.1 fields = none) :
    firstShape? fields keys = (keys.lookup key).map (· value) := by
  induction keys with
  | nil => rfl
  | cons entry rest ih =>
    obtain ⟨k, shape⟩ := entry
    rw [firstShape?, List.lookup_cons]
    by_cases hkey : k = key
    · subst hkey
      simp [hgiven]
    · have hnone := halone (k, shape) (by simp) hkey
      have hrest := ih fun e he => halone e (by simp [he])
      simp [hnone, hrest, beq_false_of_ne (Ne.symm hkey)]

namespace Tells

variable (h : Tells fields key value)
include h

theorem firstShape?_leading :
    firstShape? fields leadingKeys = (leadingKeys.lookup key).map (· value) :=
  firstShape?_eq h.given fun entry he hne => h.alone entry.1
    (List.mem_append_left _ (List.mem_map_of_mem he)) hne

theorem firstShape?_naming :
    firstShape? fields namingKeys = (namingKeys.lookup key).map (· value) :=
  firstShape?_eq h.given fun entry he hne => h.alone entry.1
    (List.mem_append_right _ (List.mem_cons_of_mem _ (List.mem_map_of_mem he))) hne

/-- A key that comes before the mark of an enumerable type tells its shape. -/
theorem ofFields_leading {shape : Json → Shape} (hshape : leadingKeys.lookup key = some shape) :
    Shape.ofFields fields = shape value := by
  rw [Shape.ofFields, h.firstShape?_leading, hshape]
  rfl

/-- A key of a named type tells its shape. -/
theorem ofFields_naming {shape : Json → Shape} (hleading : leadingKeys.lookup key = none)
    (hkey : key ≠ "enumerable") (hshape : namingKeys.lookup key = some shape) :
    Shape.ofFields fields = shape value := by
  have hmark : isEnumerable fields = false := by
    rw [isEnumerable, h.alone "enumerable" (by decide) hkey.symm]
  rw [Shape.ofFields, h.firstShape?_leading, hleading, hmark, h.firstShape?_naming, hshape]
  rfl

end Tells

theorem Tells.ofFields_enumerable (h : Tells fields "enumerable" (.bool true)) :
    Shape.ofFields fields = .enumerable := by
  have hmark : isEnumerable fields = true := by rw [isEnumerable, h.given]
  rw [Shape.ofFields, h.firstShape?_leading, hmark]
  rfl

/-! ## The type of a shape -/

section

variable {t u : TypeRef} {ts : List TypeRef} {v w : Json} {vs : List Json} {name : String}

theorem typeOf_primitive {word : String} (h : Tells fields "primitive" (.str word)) :
    typeOf (.obj fields) =
      .ok ((Primitive.ofWord? word).elim (.unknown "unknown" false) .ofPrimitive) := by
  have hshape := h.ofFields_leading rfl
  rw [typeOf]
  split <;> simp_all [Json.text]
  cases Primitive.ofWord? word <;> rfl

theorem typeOf_nullable (h : Tells fields "nullable" v) (ht : typeOf v = .ok t) :
    typeOf (.obj fields) = .ok (.nullableOf t) := by
  have hshape := h.ofFields_leading rfl
  rw [typeOf]
  split <;> simp_all
  rfl

theorem typeOf_array (h : Tells fields "array" v) (ht : typeOf v = .ok t) :
    typeOf (.obj fields) = .ok (.arrayOf t) := by
  have hshape := h.ofFields_leading rfl
  rw [typeOf]
  split <;> simp_all
  rfl

theorem typeOf_list (h : Tells fields "list" v) (ht : typeOf v = .ok t) :
    typeOf (.obj fields) = .ok (.named "List" .classType .null [t]) := by
  have hshape := h.ofFields_leading rfl
  rw [typeOf]
  split <;> simp_all
  rfl

theorem typeOf_map (h : Tells fields "map" (.arr [v, w])) (ht : typeOf v = .ok t)
    (hu : typeOf w = .ok u) :
    typeOf (.obj fields) = .ok (.named "Dictionary" .classType .null [t, u]) := by
  have hshape := h.ofFields_leading rfl
  rw [typeOf]
  split <;> simp_all
  rfl

theorem typeOf_tuple (h : Tells fields "tuple" (.arr vs)) (hts : typesOf vs = .ok ts) :
    typeOf (.obj fields) = .ok (.named "ValueTuple" .struct .null ts) := by
  have hshape := h.ofFields_leading rfl
  rw [typeOf]
  split <;> simp_all
  rfl

theorem typeOf_parameter (h : Tells fields "parameter" (.str name)) :
    typeOf (.obj fields) = .ok (.ofParameter name) := by
  have hshape := h.ofFields_leading rfl
  rw [typeOf]
  split <;> simp_all [Json.text]

theorem typeOf_enumerable (h : Tells fields "enumerable" (.bool true)) :
    typeOf (.obj fields) = .ok (.unknown "IEnumerable" true) := by
  have hshape := h.ofFields_enumerable
  rw [typeOf]
  split <;> simp_all

/-- The type of a named description, whose arguments are a list or do not count as given. -/
theorem typeOf_named {kind : TypeKind} (h : Tells fields key (.str name))
    (hleading : leadingKeys.lookup key = none) (hkey : key ≠ "enumerable")
    (hnaming : namingKeys.lookup key = some (.named kind))
    (hvs : (Json.getOr fields "arguments" .null).orElse (.arr []) = .arr vs)
    (hts : typesOf vs = .ok ts) :
    typeOf (.obj fields) =
      .ok (.named name (kindOf fields kind) (Json.getOr fields "namespace" .null) ts) := by
  have hshape := h.ofFields_naming hleading hkey hnaming
  have hnil : vs = [] → ts = [] := by
    rintro rfl
    rw [typesOf] at hts
    exact (Except.ok.inj hts).symm
  -- what counts as given is the list, and there are no arguments otherwise
  have hgiven : ∀ value, Json.field? "arguments" fields = some value →
      value.isTruthy = true ∧ value = .arr vs ∨ value.isTruthy = false ∧ ts = [] := by
    intro value hvalue
    rw [Json.getOr, hvalue, Option.getD_some, Json.orElse] at hvs
    cases htruthy : value.isTruthy with
    | true => exact .inl ⟨rfl, by rwa [htruthy] at hvs⟩
    | false =>
      rw [htruthy] at hvs
      exact .inr ⟨rfl, hnil (Json.arr.inj hvs).symm⟩
  rw [typeOf]
  split <;> simp only [hshape, reduceCtorEq, Shape.named.injEq] at *
  rename_i heq
  obtain ⟨rfl, rfl⟩ := heq
  split
  case h_1 hnone =>
    rw [Json.getOr, hnone] at hvs
    rw [hnil (Json.arr.inj hvs).symm]
    rfl
  case h_2 items hitems =>
    have htypes : typesOf items = .ok ts := by
      rcases hgiven _ hitems with ⟨-, heq⟩ | ⟨hfalse, hts'⟩
      · rwa [Json.arr.inj heq]
      · have hitems' : items = [] := by simpa [Json.isTruthy] using hfalse
        rw [hitems', hts', typesOf]
    rw [htypes]
    rfl
  case h_3 entries hentries =>
    obtain ⟨-, heq⟩ | ⟨hfalse, rfl⟩ := hgiven _ hentries
    · cases heq
    · have hentries' : entries = [] := by simpa [Json.isTruthy] using hfalse
      rw [hentries']
      rfl
  case h_4 text htext =>
    obtain ⟨-, heq⟩ | ⟨hfalse, rfl⟩ := hgiven _ htext
    · cases heq
    · have htext' : text = "" := by simpa [Json.isTruthy] using hfalse
      rw [htext']
      rfl
  case h_5 value hlist _ _ hvalue =>
    obtain ⟨-, heq⟩ | ⟨hfalse, rfl⟩ := hgiven _ hvalue
    · exact (hlist vs heq).elim
    · rw [hfalse]
      rfl

end

end Ambient.Manifest
