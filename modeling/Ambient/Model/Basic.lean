/-
  Ambient.Model.Basic

  What is to be declared: modules with the classes and enums of one source namespace. Projections
  make new entries under other names and leave the old ones as they are.
-/
import Ambient.Symbol.TypeSymbol

namespace Ambient

/-- A property of a class entry; its type is mapped when it is emitted. -/
structure Property where
  name : Json
  type : TypeRef
  deriving Repr

/-- A class, interface or struct, to be declared as an interface. -/
structure ClassEntry where
  name : String
  parameters : List Json := []
  properties : List Property := []
  deriving Repr

/-- A named value of an enum entry; in a model of symbols it is an integer. -/
structure EnumMember where
  name : Json
  value : Json
  deriving Repr

/-- An enum with its members in order. -/
structure EnumEntry where
  name : String
  members : List EnumMember := []
  deriving Repr

/-- All entries of one source namespace. -/
structure Module where
  name : Json
  classes : List ClassEntry := []
  enums : List EnumEntry := []
  deriving Repr

/-- The modules of a run, in order. -/
structure Model where
  modules : List Module := []
  deriving Repr

namespace ClassEntry

/-- The entry under another name. -/
def renamed (entry : ClassEntry) (name : String) : ClassEntry :=
  { entry with name }

end ClassEntry

namespace EnumEntry

/-- The entry under another name. -/
def renamed (entry : EnumEntry) (name : String) : EnumEntry :=
  { entry with name }

end EnumEntry

namespace Module

/-- The names of all entries, those of classes before those of enums. -/
def entryNames (m : Module) : List String :=
  m.classes.map (·.name) ++ m.enums.map (·.name)

/-- The module with other classes. -/
def withClasses (m : Module) (classes : List ClassEntry) : Module :=
  { m with classes }

/-- The module with other enums. -/
def withEnums (m : Module) (enums : List EnumEntry) : Module :=
  { m with enums }

end Module

namespace Model

/-- The first module with a name. -/
def module? (model : Model) (name : Json) : Option Module :=
  model.modules.find? (·.name.equals name)

/-- The number of class entries in all modules. -/
def classCount (model : Model) : Nat :=
  (model.modules.flatMap (·.classes)).length

/-- The number of enum entries in all modules. -/
def enumCount (model : Model) : Nat :=
  (model.modules.flatMap (·.enums)).length

end Model

end Ambient
