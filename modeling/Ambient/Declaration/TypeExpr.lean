/-
  Ambient.Declaration.TypeExpr

  Types of the target language. A member type is first classified as one of a few forms and then
  written as text; how the namespaces of a run are called enters only the second step.
-/
import Ambient.Naming
import Ambient.Symbol.TypeRef

namespace Ambient

/-- A type of the target language. -/
inductive TypeExpr where
  | primitive (text : String)
  | array (element : TypeExpr)
  | tuple (elements : List TypeExpr)
  | map (key value : TypeExpr)
  /-- A declared type with its arguments; `scope` is the namespace that it is declared in. -/
  | reference (name : String) (scope : Json) (isEnum : Bool) (arguments : List TypeExpr)
  | parameter (name : String)
  | unknown (enumerable : Bool)
  deriving Repr

namespace TypeExpr

instance : Inhabited TypeExpr := ⟨.unknown false⟩

/-! ## Classification -/

/-- The generic types that are written as arrays. -/
def listNames : List String :=
  ["List", "IList", "ICollection", "IEnumerable", "IReadOnlyList", "IReadOnlyCollection",
   "HashSet", "ISet"]

/-- The generic types that are written as maps. -/
def mapNames : List String :=
  ["Dictionary", "IDictionary", "IReadOnlyDictionary", "SortedDictionary"]

/-- The generic types that are written as tuples. -/
def tupleNames : List String := ["ValueTuple", "Tuple"]

/-- The text of a primitive type. -/
def primitiveText : Primitive → String
  | .string | .char | .guid | .timeOnly | .timeSpan => "string"
  | .bool => "boolean"
  | .byte | .sbyte | .short | .ushort | .int | .uint | .long | .ulong | .float | .double
  | .decimal => "number"
  | .dateTime | .dateTimeOffset | .dateOnly => "Date"
  | .object => "any"

/-- The form of a generic type with a name of its own: a tuple with some argument, a list with one
argument or a map with two. -/
def collection? (name : String) (arguments : List TypeExpr) : Option TypeExpr :=
  match arguments with
  | [] => none
  | [element] =>
    if tupleNames.contains name then some (.tuple arguments)
    else if listNames.contains name then some (.array element)
    else none
  | [key, value] =>
    if tupleNames.contains name then some (.tuple arguments)
    else if mapNames.contains name then some (.map key value)
    else none
  | _ => if tupleNames.contains name then some (.tuple arguments) else none

/-- The form of a declared type. Enums are never collections, and a type without arguments that can
be gone through is a list of anything. -/
def named (name : String) (kind : TypeKind) (scope : Json) (enumerable : Bool)
    (arguments : List TypeExpr) : TypeExpr :=
  let collection := if kind == .enum then none else collection? name arguments
  match collection with
  | some form => form
  | none =>
    if enumerable && arguments.isEmpty then .unknown true
    else .reference name scope (kind == .enum) arguments

mutual

/-- The form of a member type. A nullable type has the form of the type that it wraps: what null
adds is written after the whole type. -/
def ofRef : TypeRef → TypeExpr
  | ⟨name, kind, scope, arguments, basic, enumerable⟩ =>
    match kind with
    | .nullable => (ofFirst arguments).getD (.unknown false)
    | .array =>
      match ofFirst arguments with
      | some element => .array element
      | none => .unknown true
    | .parameter => .parameter name
    | .primitive =>
      match basic with
      | some p => .primitive (primitiveText p)
      | none => .unknown false
    | .classType | .interface | .struct | .enum =>
      named (Arity.strip name) kind scope enumerable (ofRefs arguments)
    | .unknown => .unknown enumerable

/-- The form of the first of some member types. -/
def ofFirst : List TypeRef → Option TypeExpr
  | [] => none
  | t :: _ => some (ofRef t)

/-- The forms of some member types. -/
def ofRefs : List TypeRef → List TypeExpr
  | [] => []
  | t :: ts => ofRef t :: ofRefs ts

end

end TypeExpr

/-! ## Namespaces of a run -/

/-- What the namespaces of a run are called. References need no namespace where there is only
one. -/
structure Scopes where
  names : List (Json × Json) := []
  isSingle : Bool := false
  deriving Repr

namespace Scopes

/-- What a namespace is called: as it is told, or by its own name. -/
def nameOf (scopes : Scopes) (scope : Json) : Json :=
  match scopes.names.find? (·.1.same scope) with
  | some (_, name) => name
  | none => scope

/-- A name with the namespace it is declared in. -/
def qualify (scopes : Scopes) (name : String) (scope : Json) : String :=
  if scopes.isSingle || !scope.isTruthy then name
  else (scopes.nameOf scope).text ++ "." ++ name

end Scopes

namespace TypeExpr

/-! ## Text -/

/-- The name that a declared type is referred to by: classes go by their interface names. -/
def referenceName (name : String) (isEnum : Bool) : String :=
  if isEnum then name else Naming.interfaceName name

/-- Arguments in angle brackets, or nothing where there are none. -/
def bracketed (arguments : List String) : String :=
  if arguments.isEmpty then "" else "<" ++ String.joinWith ", " arguments ++ ">"

mutual

/-- The text of a type. -/
def text (scopes : Scopes) : TypeExpr → String
  | .primitive t => t
  | .array element => text scopes element ++ "[]"
  | .tuple elements => "[" ++ String.joinWith ", " (texts scopes elements) ++ "]"
  | .map key value =>
    "\x7b [key: " ++ text scopes key ++ "]: " ++ text scopes value ++ " \x7d"
  | .reference name scope isEnum arguments =>
    scopes.qualify (referenceName name isEnum ++ bracketed (texts scopes arguments)) scope
  | .parameter name => name
  | .unknown enumerable => if enumerable then "any[]" else "any"

/-- The texts of some types. -/
def texts (scopes : Scopes) : List TypeExpr → List String
  | [] => []
  | t :: ts => text scopes t :: texts scopes ts

end

mutual

/-- The namespaces that are looked up to write a type, in that order. -/
def lookups : TypeExpr → List Json
  | .array element => lookups element
  | .tuple elements => allLookups elements
  | .map key value => lookups key ++ lookups value
  | .reference _ scope _ arguments => allLookups arguments ++ [scope]
  | _ => []

/-- The namespaces that are looked up to write some types. -/
def allLookups : List TypeExpr → List Json
  | [] => []
  | t :: ts => lookups t ++ allLookups ts

end

/-- The text of a type whose namespaces may be values that cannot be looked up. -/
def text? (scopes : Scopes) (t : TypeExpr) : Except Fault String :=
  match t.lookups.find? fun scope => !scopes.isSingle && scope.isTruthy && !scope.isKey with
  | some scope => unsuitable (.notKey scope.kind)
  | none => .ok (t.text scopes)

end TypeExpr

/-- The text of a member type. -/
def TypeRef.text? (scopes : Scopes) (t : TypeRef) : Except Fault String :=
  (TypeExpr.ofRef t).text? scopes

end Ambient
