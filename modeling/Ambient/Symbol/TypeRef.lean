/-
  Ambient.Symbol.TypeRef

  Structural descriptions of member types: primitives, named types with arguments, arrays, nullable
  wrappers, type parameters and types about which nothing is known.
-/
import Ambient.Symbol.Arity
import Ambient.Text.Case

namespace Ambient

/-! ## Primitives -/

/-- The primitive types of the source type system. -/
inductive Primitive where
  | string | char | guid | bool | byte | sbyte | short | ushort | int | uint | long | ulong
  | float | double | decimal | dateTime | dateTimeOffset | dateOnly | timeOnly | timeSpan | object
  deriving DecidableEq, Repr

namespace Primitive

/-- The keyword of a primitive type. -/
def keyword : Primitive → String
  | .string => "string"
  | .char => "char"
  | .guid => "guid"
  | .bool => "bool"
  | .byte => "byte"
  | .sbyte => "sbyte"
  | .short => "short"
  | .ushort => "ushort"
  | .int => "int"
  | .uint => "uint"
  | .long => "long"
  | .ulong => "ulong"
  | .float => "float"
  | .double => "double"
  | .decimal => "decimal"
  | .dateTime => "datetime"
  | .dateTimeOffset => "datetimeoffset"
  | .dateOnly => "dateonly"
  | .timeOnly => "timeonly"
  | .timeSpan => "timespan"
  | .object => "object"

/-- All primitive types. -/
def all : List Primitive :=
  [.string, .char, .guid, .bool, .byte, .sbyte, .short, .ushort, .int, .uint, .long, .ulong,
   .float, .double, .decimal, .dateTime, .dateTimeOffset, .dateOnly, .timeOnly, .timeSpan, .object]

/-- Other words that are accepted for primitive types. -/
def aliases : List (String × Primitive) :=
  [("boolean", .bool), ("int16", .short), ("uint16", .ushort), ("int32", .int), ("uint32", .uint),
   ("int64", .long), ("uint64", .ulong), ("single", .float)]

/-- The primitive type with a keyword. -/
def ofKeyword? (word : String) : Option Primitive :=
  all.find? (·.keyword == word)

/-- The primitive type that a word means: case and surrounding blanks do not matter. -/
def ofWord? (word : String) : Option Primitive :=
  let key := String.ofList (Text.lower (Text.trim word.toList))
  (aliases.lookup key).orElse fun _ => ofKeyword? key

end Primitive

/-! ## Types -/

/-- The forms that a member type can have. -/
inductive TypeKind where
  | primitive | interface | struct | enum | array | nullable | parameter | unknown
  | classType
  deriving DecidableEq, Repr

namespace TypeKind

/-- The word for a form of type. -/
def word : TypeKind → String
  | .primitive => "primitive"
  | .classType => "class"
  | .interface => "interface"
  | .struct => "struct"
  | .enum => "enum"
  | .array => "array"
  | .nullable => "nullable"
  | .parameter => "generic_parameter"
  | .unknown => "unknown"

/-- All forms of types. -/
def all : List TypeKind :=
  [.primitive, .classType, .interface, .struct, .enum, .array, .nullable, .parameter, .unknown]

/-- The form that a word stands for. -/
def ofWord? (word : String) : Option TypeKind :=
  all.find? (·.word == word)

/-- The forms that refer to a declared type by its name. -/
def isNamed : TypeKind → Bool
  | .classType | .interface | .struct | .enum => true
  | _ => false

end TypeKind

/-- The type of a member. `arguments` holds the arguments of a generic type, or the one type that
an array or a nullable wrapper is made of; `scope` is the namespace as the manifest gives it. -/
structure TypeRef where
  name : String
  kind : TypeKind
  scope : Json := .null
  arguments : List TypeRef := []
  primitive : Option Primitive := none
  enumerable : Bool := false
  deriving Repr

namespace TypeRef

instance : Inhabited TypeRef := ⟨{ name := "", kind := .unknown }⟩

/-- The name without its arity marker. -/
def simpleName (t : TypeRef) : String :=
  Arity.strip t.name

/-- The type that an array or a nullable wrapper is made of. -/
def element? (t : TypeRef) : Option TypeRef :=
  t.arguments.head?

/-- Whether the type is a generic type with arguments. -/
def isGeneric (t : TypeRef) : Bool :=
  !t.arguments.isEmpty && t.kind != .array && t.kind != .nullable

/-! ## Constructors -/

/-- The reference to a primitive type. -/
def ofPrimitive (p : Primitive) : TypeRef :=
  { name := p.keyword, kind := .primitive, primitive := some p }

/-- An array of elements of a type. -/
def arrayOf (element : TypeRef) : TypeRef :=
  { name := element.name ++ "[]", kind := .array, arguments := [element] }

/-- A type or nothing. -/
def nullableOf (underlying : TypeRef) : TypeRef :=
  { name := underlying.name ++ "?", kind := .nullable, arguments := [underlying] }

/-- A type parameter. -/
def ofParameter (name : String) : TypeRef :=
  { name, kind := .parameter }

/-- A named type; a name without marker gets one when there are arguments. -/
def named (name : String) (kind : TypeKind) (scope : Json) (arguments : List TypeRef) : TypeRef :=
  let marked :=
    if !arguments.isEmpty && !Arity.isMarked name then Arity.mark name arguments.length else name
  { name := marked, kind, scope, arguments }

/-- A type about which nothing is known, except perhaps that it can be gone through. -/
def unknown (name : String) (enumerable : Bool) : TypeRef :=
  { name, kind := .unknown, enumerable }

/-! ## Comparison -/

mutual

/-- Whether two types agree in every part. -/
def same : TypeRef → TypeRef → Bool
  | ⟨name, kind, scope, arguments, primitive, enumerable⟩,
    ⟨name', kind', scope', arguments', primitive', enumerable'⟩ =>
    name == name' && kind == kind' && scope.same scope' && sameAll arguments arguments' &&
      primitive == primitive' && enumerable == enumerable'

/-- Whether two lists of types agree in every part. -/
def sameAll : List TypeRef → List TypeRef → Bool
  | [], [] => true
  | t :: ts, u :: us => same t u && sameAll ts us
  | _, _ => false

end

mutual

/-- The namespaces in a type, its own before those of its arguments. -/
def scopes : TypeRef → List Json
  | ⟨_, _, scope, arguments, _, _⟩ => scope :: allScopes arguments

/-- The namespaces in some types. -/
def allScopes : List TypeRef → List Json
  | [] => []
  | t :: ts => scopes t ++ allScopes ts

end

end TypeRef

end Ambient
