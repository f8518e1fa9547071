/-
  Ambient.Symbol.TypeSymbol

  Source types as a manifest describes them: classes, interfaces, structs and enums with their
  members and values in order of declaration.
-/
import Ambient.Symbol.TypeRef

namespace Ambient

/-- The kinds of source types. -/
inductive SymbolKind where
  | classType | interface | struct | enum
  deriving DecidableEq, Repr

namespace SymbolKind

/-- The word for a kind of source type. -/
def word : SymbolKind → String
  | .classType => "class"
  | .interface => "interface"
  | .struct => "struct"
  | .enum => "enum"

/-- The kind of source type that a word stands for. -/
def ofWord? (word : String) : Option SymbolKind :=
  [SymbolKind.classType, .interface, .struct, .enum].find? (·.word == word)

/-- The form of a type that refers to a source type of a kind. -/
def typeKind : SymbolKind → TypeKind
  | .classType => .classType
  | .interface => .interface
  | .struct => .struct
  | .enum => .enum

end SymbolKind

/-- A property or a field of a source type; its name is the value that the manifest gives. -/
structure Member where
  name : Json
  type : TypeRef
  isPublic : Bool := true
  isStatic : Bool := false
  isIndexer : Bool := false
  memberKind : String := "property"
  deriving Repr

/-- A named integer of a source enum. -/
structure EnumValue where
  name : Json
  value : Int
  deriving Repr

/-- A source type. The name may carry an arity marker, and the namespace is null where there is
none. -/
structure TypeSymbol where
  name : String
  scope : Json := .null
  kind : SymbolKind := .classType
  isPublic : Bool := true
  isNested : Bool := false
  isStatic : Bool := false
  isAbstract : Bool := false
  parameters : List Json := []
  members : List Member := []
  values : List EnumValue := []
  deriving Repr

namespace Member

/-- Whether a member is part of what other code sees: public, of an instance, and no indexer. -/
def isExported (m : Member) : Bool :=
  m.isPublic && !m.isStatic && !m.isIndexer

/-- Whether two members agree in every part. -/
def same (m n : Member) : Bool :=
  m.name.same n.name && m.type.same n.type && m.isPublic == n.isPublic &&
    m.isStatic == n.isStatic && m.isIndexer == n.isIndexer && m.memberKind == n.memberKind

end Member

namespace EnumValue

/-- Whether two enum values agree in name and number. -/
def same (v w : EnumValue) : Bool :=
  v.name.same w.name && v.value == w.value

end EnumValue

namespace TypeSymbol

/-- The name without its arity marker. -/
def simpleName (s : TypeSymbol) : String :=
  Arity.strip s.name

/-- The number of type parameters: what the name declares, or else as many as there are. -/
def arity (s : TypeSymbol) : Except Fault Nat := do
  let declared ← Arity.declared s.name
  .ok (if declared == 0 then s.parameters.length else declared)

/-- Whether the type has type parameters. -/
def isGenericDefinition (s : TypeSymbol) : Except Fault Bool := do
  let arity ← s.arity
  .ok (arity != 0)

/-- Whether the type is an enum. -/
def isEnum (s : TypeSymbol) : Bool :=
  s.kind == .enum

/-- The name after its namespace and a dot, or alone where there is no namespace. -/
def fullName (s : TypeSymbol) : String :=
  if s.scope.isTruthy then s.scope.text ++ "." ++ s.name else s.name

/-- Whether two lists agree item by item. -/
def sameList {α : Type} (same : α → α → Bool) : List α → List α → Bool
  | [], [] => true
  | a :: as, b :: bs => same a b && sameList same as bs
  | _, _ => false

/-- Whether two symbols agree in every part; equal symbols of two manifests are one symbol. -/
def same (s t : TypeSymbol) : Bool :=
  s.name == t.name && s.scope.same t.scope && s.kind == t.kind && s.isPublic == t.isPublic &&
    s.isNested == t.isNested && s.isStatic == t.isStatic && s.isAbstract == t.isAbstract &&
    sameList Json.same s.parameters t.parameters && sameList Member.same s.members t.members &&
    sameList EnumValue.same s.values t.values

/-- The values of a symbol that take part in telling symbols apart and may be of any kind. -/
def looseValues (s : TypeSymbol) : List Json :=
  s.scope :: s.parameters ++ s.members.flatMap (fun m => m.name :: m.type.scopes) ++
    s.values.map (·.name)

/-- The symbol as a key: all its values must be able to serve as keys. -/
def asKey (s : TypeSymbol) : Except Fault TypeSymbol :=
  match s.looseValues.find? (!·.isKey) with
  | some value => unsuitable (.notKey value.kind)
  | none => .ok s

end TypeSymbol

end Ambient
