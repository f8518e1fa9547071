/-
  Ambient.Declaration.Emission

  From a model to text. The modules are grouped by the namespace that they go to; each namespace
  with something to declare becomes a block, which holds the visible classes of its modules before
  their visible enums. Only then are the blocks written as text.
-/
import Ambient.Declaration.Context
import Ambient.Declaration.TypeExpr
import Ambient.Config.Basic
import Ambient.Grouping
import Ambient.Keeping
import Ambient.Model.Basic
import Ambient.Naming
import Ambient.Visibility

namespace Ambient

/-- Which kinds of declarations are emitted. -/
structure Output where
  properties : Bool := true
  enums : Bool := true
  deriving DecidableEq, Repr

/-- How declarations are made: their style, and the rules for names, types and visibility. -/
structure Generator where
  enumStyle : EnumStyle := .numeric
  /-- What stands before the lines inside a declaration, and tells the margin before a declaration. -/
  indent : Json := .str "    "
  /-- The name that a property is declared under. -/
  identifier : Property → Except Fault Json := Naming.propertyName
  /-- The final text of the type of a property. -/
  memberType : Property → String → String := Naming.memberType
  /-- The namespace that a module goes to, and the module with the names of its declarations. -/
  moduleName : Module → Json × Module := Naming.formatModule .null
  /-- Whether a declaration is emitted. -/
  isVisible : String → Except Fault Bool := Visibility.isVisible (.str defaultMarker)
  /-- Templates that take the place of the standard forms. -/
  templates : Template.Store := {}

/-- The generator that a configuration asks for. -/
def Generator.ofConfig (config : Config) : Except Fault Generator := do
  let indent ← config.indent
  .ok {
    enumStyle := config.enumStyle, indent := .str indent
    moduleName := Naming.formatModule config.outputNamespace
    isVisible := Visibility.isVisible config.hiddenMarker }

namespace Generator

variable (g : Generator)

/-! ## Namespaces -/

/-- The modules of each namespace, and what the namespaces are called. -/
structure Resolution where
  groups : List (Json × List Module)
  scopes : Scopes
  deriving Repr

/-- The namespace of a module with the module as it is declared there, and the name that the module
has in the model. -/
def resolveModule (m : Module) : Except Fault ((Json × Module) × (Json × Json)) := do
  let (name, formatted) := g.moduleName m
  let name ← name.asKey
  let source ← m.name.asKey
  .ok ((name, formatted), (source, name))

/-- The namespaces of a model. A module that comes again under its name is called what it was called
first. -/
def resolve (model : Model) : Except Fault Resolution := do
  let resolved ← model.modules.mapM g.resolveModule
  let groups := Grouping.ofList (resolved.map (·.1))
  .ok { groups, scopes := { names := resolved.map (·.2), isSingle := groups.length == 1 } }

/-! ## Declarations -/

/-- The name and the type of a property as they are declared. -/
def property (scopes : Scopes) (p : Property) : Except Fault (Json × String) := do
  let name ← g.identifier p
  let type ← p.type.text? scopes
  .ok (name, g.memberType p type)

/-- The interface that declares a class. -/
def interface (scopes : Scopes) (entry : ClassEntry) : Except Fault Declaration := do
  let properties ← entry.properties.mapM (g.property scopes)
  .ok (.interface entry.name entry.parameters properties)

/-- The declaration of an enum in the style of the generator. -/
def enum (entry : EnumEntry) : Declaration :=
  match g.enumStyle with
  | .numeric => .enum entry.name (entry.members.map fun m => (m.name, m.value))
  | .string =>
    .enum entry.name (entry.members.map fun m => (m.name, .str (Declaration.literal m.name.text)))
  | .stringLiteral => .union entry.name entry.members

/-- The visible classes of some modules as interfaces. -/
def interfaces (scopes : Scopes) (modules : List Module) : Except Fault (List Declaration) := do
  let visible ← keepIf (fun entry => g.isVisible entry.name) (modules.flatMap (·.classes))
  visible.mapM (g.interface scopes)

/-- The visible enums of some modules. -/
def enums (modules : List Module) : Except Fault (List Declaration) := do
  let visible ← keepIf (fun entry => g.isVisible entry.name) (modules.flatMap (·.enums))
  .ok (visible.map g.enum)

/-- The declarations of a namespace with some modules. -/
def declarations (scopes : Scopes) (output : Output) (modules : List Module) :
    Except Fault (List Declaration) := do
  let interfaces ← if output.properties then g.interfaces scopes modules else .ok []
  let enums ← if output.enums then g.enums modules else .ok []
  .ok (interfaces ++ enums)

/-- The blocks of a model: the namespaces that declare something. -/
def blocks (model : Model) (output : Output) : Except Fault (List Block) := do
  let resolution ← g.resolve model
  let blocks ← resolution.groups.mapM fun (name, modules) => do
    let declarations ← g.declarations resolution.scopes output modules
    .ok { name, declarations : Block }
  .ok (blocks.filter (!·.declarations.isEmpty))

/-! ## Text -/

/-- The text of a declaration, by its template if there is one. -/
def declarationText (d : Declaration) : Except Fault String :=
  g.templates.renderOr d.templateName (d.context g.indent) (.ok (d.text g.indent.text))

/-- The text of a namespace in its standard form. -/
def wrap (name : Json) (declarations : List String) : Except Fault String := do
  let margin ← (marginOf g.indent).mapError fun fault => .template Block.templateName fault.message
  .ok (Block.wrap margin name.text declarations)

/-- The text of a block, by its template if there is one. -/
def blockText (block : Block) : Except Fault String := do
  let declarations ← block.declarations.mapM g.declarationText
  g.templates.renderOr Block.templateName (Block.context g.indent block.name declarations)
    (g.wrap block.name declarations)

/-- The declarations of a model as text. -/
def generate (model : Model) (output : Output) : Except Fault String := do
  let blocks ← g.blocks model output
  .ok (joinBlocks (← blocks.mapM g.blockText))

end Generator

end Ambient
