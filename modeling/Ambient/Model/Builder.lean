/-
  Ambient.Model.Builder

  Building the model. A builder holds the distinct symbols in the order in which they were first
  added, and the model groups them by namespace. A symbol that is refused leaves the builder as it
  was.
-/
import Ambient.Model.Basic
import Ambient.Grouping

namespace Ambient

/-- The name of the module of types without a namespace. -/
def defaultModuleName : String := "Global"

namespace TypeSymbol

/-- The name of the module that a symbol belongs to. -/
def moduleName (s : TypeSymbol) : Json :=
  s.scope.orElse (.str defaultModuleName)

/-- The properties that a symbol declares to other code. -/
def properties (s : TypeSymbol) : List Property :=
  (s.members.filter Member.isExported).map fun m => { name := m.name, type := m.type }

/-- The class entry of a symbol that is no enum. -/
def classEntry (s : TypeSymbol) : ClassEntry :=
  { name := s.simpleName, parameters := s.parameters, properties := s.properties }

/-- The enum entry of an enum. -/
def enumEntry (s : TypeSymbol) : EnumEntry :=
  { name := s.simpleName
    members := s.values.map fun v => { name := v.name, value := .int v.value } }

end TypeSymbol

/-- The module of the symbols of one namespace. -/
def Module.ofSymbols (name : Json) (symbols : List TypeSymbol) : Module :=
  { name
    classes := (symbols.filter (!·.isEnum)).map TypeSymbol.classEntry
    enums := (symbols.filter (·.isEnum)).map TypeSymbol.enumEntry }

/-- The distinct symbols that have been added. -/
structure Builder where
  symbols : List TypeSymbol := []
  deriving Repr

namespace Builder

/-- The builder without symbols. -/
def empty : Builder := {}

/-- The number of symbols. -/
def size (b : Builder) : Nat :=
  b.symbols.length

/-- Whether a symbol has been added. -/
def contains (b : Builder) (s : TypeSymbol) : Bool :=
  b.symbols.any (·.same s)

/-- The symbol, if it can enter a model: there is one, the arity that its name declares is that of
its type parameters, and it can be told apart from others. -/
def admitted (symbol : Option TypeSymbol) : Except Fault TypeSymbol :=
  match symbol with
  | none => .error (.symbol .absent)
  | some s => do
    let declared ← Arity.declared s.name
    if declared != 0 && declared != s.parameters.length then
      .error (.symbol (.arityMismatch s.fullName declared s.parameters.length))
    else s.asKey

/-- The builder with one more symbol, unless it has it already. -/
def add (b : Builder) (symbol : Option TypeSymbol) : Except Fault Builder := do
  let s ← admitted symbol
  .ok (if b.contains s then b else { symbols := b.symbols ++ [s] })

/-- The builder with symbols read one by one, and the fault that ended the row if one did. -/
def addWith {α : Type} (read : α → Except Fault (Option TypeSymbol)) (b : Builder) :
    List α → Builder × Option Fault
  | [] => (b, none)
  | first :: rest =>
    match read first >>= b.add with
    | .ok b => addWith read b rest
    | .error fault => (b, some fault)

/-- The builder with more symbols, up to the first that is refused. -/
def addAll (b : Builder) (symbols : List (Option TypeSymbol)) : Builder × Option Fault :=
  b.addWith .ok symbols

/-- The model of the symbols that have been added. -/
def build (b : Builder) : Model :=
  { modules := (Grouping.ofList (b.symbols.map fun s => (s.moduleName, s))).map
      fun (name, symbols) => Module.ofSymbols name symbols }

end Builder

/-- The model of some symbols, if none of them is refused. -/
def Model.ofSymbols (symbols : List TypeSymbol) : Except Fault Model :=
  match Builder.empty.addAll (symbols.map some) with
  | (b, none) => .ok b.build
  | (_, some fault) => .error fault

end Ambient
