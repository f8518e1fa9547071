/-
  Ambient.Manifest.Entry

  Manifests: a list of type entries, or an object that holds the list. An entry has a name, a kind,
  members and enum values; whatever else it lacks is filled in.
-/
import Ambient.Manifest.Description

namespace Ambient.Manifest

/-- The truth of a field, or a fixed one where the field is absent. -/
def flag (fields : List (String × Json)) (key : String) (fallback : Bool) : Bool :=
  (Json.getOr fields key (.bool fallback)).isTruthy

/-- The items of a field that may be absent or empty. -/
def listOf (fields : List (String × Json)) (key : String) : Except Fault (List Json) :=
  let value := Json.getOr fields key .null
  if value.isTruthy then value.items else .ok []

/-- The fields of an object whose name is given, with the name. -/
def namedFields? : Json → Option (List (String × Json) × Json)
  | .obj fields =>
    let name := Json.getOr fields "name" .null
    if name.isTruthy then some (fields, name) else none
  | _ => none

/-- A member of the type `owner`. -/
def memberOf (owner : String) (data : Json) : Except Fault Member :=
  match namedFields? data with
  | none => .error (.manifest (.memberWithoutName owner data.display))
  | some (fields, name) => do
    let type ← typeOf (Json.getOr fields "type" (.str "object"))
    .ok {
      name, type
      isPublic := flag fields "isPublic" true
      isStatic := flag fields "isStatic" false
      isIndexer := flag fields "isIndexer" false
      memberKind := (Json.getOr fields "memberKind" (.str "property")).text }

/-- The integer that a value stands for: itself, the integer part of a number, or what a text
denotes. An infinite number is no integer and no text either. -/
def integerOf (refusal : ManifestFault) : Json → Except Fault Int
  | .int n => .ok n
  | .bool b => .ok (if b then 1 else 0)
  | .float (.infinity _) => unsuitable .notFinite
  | .float x => (x.truncate?.map Except.ok).getD (.error (.manifest refusal))
  | .str s => ((Text.integer? s.toList).map Except.ok).getD (.error (.manifest refusal))
  | _ => .error (.manifest refusal)

/-- A value of the enum `owner`. -/
def valueOf (owner : String) (data : Json) : Except Fault EnumValue :=
  match namedFields? data with
  | none => .error (.manifest (.valueWithoutName owner data.display))
  | some (fields, name) => do
    let value ← integerOf (.valueNotInteger owner name.text) (Json.getOr fields "value" (.int 0))
    .ok { name, value }

/-- The symbol that a manifest entry describes. -/
def symbolOf (data : Json) : Except Fault TypeSymbol :=
  match data with
  | .obj fields =>
    match Json.field? "name" fields with
    | some (.str name) =>
      if name.isEmpty then .error (.manifest (.entryWithoutName data.display))
      else
        let kindWord := (Json.getOr fields "kind" (.str "class")).text.lowered
        match SymbolKind.ofWord? kindWord with
        | none => .error (.manifest (.unknownKind kindWord name))
        | some kind => do
          let members ← (← listOf fields "members").mapM (memberOf name)
          let values ← (← listOf fields "values").mapM (valueOf name)
          let parameters ← listOf fields "genericParameters"
          .ok {
            name, kind, parameters, members, values
            scope := (Json.getOr fields "namespace" .null).orElse .null
            isPublic := flag fields "isPublic" true
            isNested := flag fields "isNested" false
            isStatic := flag fields "isStatic" false
            isAbstract := flag fields "isAbstract" false }
    | _ => .error (.manifest (.entryWithoutName data.display))
  | _ => .error (.manifest (.entryNotObject data.display))

/-- The entries of a manifest document. -/
def entriesOf (document : Json) : Except Fault (List Json) :=
  match document with
  | .arr entries => .ok entries
  | .obj fields =>
    match Json.field? "types" fields with
    | some (.arr entries) => .ok entries
    | _ => .error (.manifest .notManifest)
  | _ => .error (.manifest .notManifest)

/-- The symbols of a manifest document, one for each entry and in the same order. -/
def symbolsOf (document : Json) : Except Fault (List TypeSymbol) := do
  (← entriesOf document).mapM symbolOf

end Ambient.Manifest
