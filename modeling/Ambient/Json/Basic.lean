/-
  Ambient.Json.Basic

  JSON values. Objects keep their fields in document order, and integers are kept apart from
  fractional numbers. `same` is the equality by which values serve as keys: an integer, a
  fractional number and a truth value of one numeric value are the same key.
-/
import Ambient.Number.Double

namespace Ambient

/-- A JSON value. -/
inductive Json where
  | null
  | bool (b : Bool)
  | int (n : Int)
  | float (x : Double)
  | str (s : String)
  | arr (items : List Json)
  | obj (fields : List (String × Json))
  deriving Repr

/-- The kinds of JSON values. -/
inductive Kind where
  | null | bool | int | float | str | arr | obj
  deriving DecidableEq, Repr

namespace Json

instance : Inhabited Json := ⟨.null⟩

/-- The kind of a value. -/
def kind : Json → Kind
  | .null => .null
  | .bool _ => .bool
  | .int _ => .int
  | .float _ => .float
  | .str _ => .str
  | .arr _ => .arr
  | .obj _ => .obj

/-- Whether a value counts as given: null, false, zero and empty values do not. -/
def isTruthy : Json → Bool
  | .null => false
  | .bool b => b
  | .int n => n != 0
  | .float x => x.isNonzero
  | .str s => !s.isEmpty
  | .arr items => !items.isEmpty
  | .obj fields => !fields.isEmpty

/-- The value itself if it counts as given, and another value otherwise. -/
def orElse (value fallback : Json) : Json :=
  if value.isTruthy then value else fallback

/-- The value of a field. -/
def field? (key : String) : List (String × Json) → Option Json
  | [] => none
  | (k, v) :: rest => if k == key then some v else field? key rest

/-- The value of a field of an object. -/
def get? : Json → String → Option Json
  | .obj fields, key => field? key fields
  | _, _ => none

/-- The value of a field, or a fixed value where the field is absent. -/
def getOr (fields : List (String × Json)) (key : String) (fallback : Json) : Json :=
  (field? key fields).getD fallback

/-- The value of a field is a part of the object. -/
theorem sizeOf_field_lt {key : String} {fields : List (String × Json)} {value : Json}
    (h : field? key fields = some value) : sizeOf value < sizeOf fields := by
  induction fields with
  | nil => simp [field?] at h
  | cons entry rest ih =>
    obtain ⟨k, v⟩ := entry
    simp only [field?] at h
    split at h
    · cases h
      simp
      omega
    · have := ih h
      simp
      omega

/-- The integer value of an integer or of a truth value. -/
def asInt? : Json → Option Int
  | .int n => some n
  | .bool b => some (if b then 1 else 0)
  | _ => none

/-- Whether a value of one of the three numeric kinds has the numeric value of another. -/
def sameNumber : Json → Json → Bool
  | .float x, .float y => x.sameValue y
  | .float x, b => (b.asInt?.map x.equalsInt).getD false
  | a, .float y => (a.asInt?.map y.equalsInt).getD false
  | a, b =>
    match a.asInt?, b.asInt? with
    | some m, some n => m == n
    | _, _ => false

mutual

/-- Whether two values are the same key. -/
def same : Json → Json → Bool
  | .null, .null => true
  | .str s, .str t => s == t
  | .arr xs, .arr ys => sameItems xs ys
  | .obj fs, .obj gs => fs.length == gs.length && sameFields fs gs
  | a, b => sameNumber a b

/-- Whether two lists have the same values in the same order. -/
def sameItems : List Json → List Json → Bool
  | [], [] => true
  | x :: xs, y :: ys => same x y && sameItems xs ys
  | _, _ => false

/-- Whether each field has the same value among the fields of another object. -/
def sameFields : List (String × Json) → List (String × Json) → Bool
  | [], _ => true
  | (key, value) :: rest, gs =>
    (match field? key gs with
      | some other => same value other
      | none => false) && sameFields rest gs

end

/-- Equality of value, under which the undefined number differs from itself. -/
def equals (a b : Json) : Bool :=
  match a with
  | .float .nan => false
  | _ => a.same b

/-- Lists and objects cannot serve as keys. -/
def isKey (value : Json) : Bool :=
  match value with
  | .arr _ => false
  | .obj _ => false
  | _ => true

end Json

end Ambient
