/-
  Ambient.Declaration.Context

  Declarations as templates see them. Each form of declaration has a template name and a context
  of values; `standard?` writes the form of a name from any context, whose values may be of
  unsuitable kinds.
-/
import Ambient.Declaration.Basic
import Ambient.Template.Store

namespace Ambient

namespace Declaration

/-- The name of the template that stands for a form of declaration. -/
def templateName : Declaration → String
  | .interface .. => "interface.ts.j2"
  | .enum .. => "enum.ts.j2"
  | .union .. => "union.ts.j2"

/-- A member of an enum as a template shows it. -/
def memberText (m : EnumMember) : String :=
  "EnumMember(name=" ++ m.name.display ++ ", value=" ++ m.value.display ++ ")"

/-- The members of a union as a template shows them: in parentheses, and with a comma after a single
one. -/
def membersText : List EnumMember → String
  | [m] => "(" ++ memberText m ++ ",)"
  | members => "(" ++ String.joinWith ", " (members.map memberText) ++ ")"

/-- The values that a template for a declaration can show. -/
def context (indent : Json) : Declaration → List (String × Json)
  | .interface name parameters properties =>
    [("name", .str name), ("type_parameters", .arr parameters),
     ("properties", .arr (properties.map fun (name, type) =>
        .obj [("name", name), ("type", .str type)])),
     ("indent", indent)]
  | .enum name members =>
    [("name", .str name),
     ("members", .arr (members.map fun (name, value) =>
        .obj [("name", name), ("value", value)])),
     ("indent", indent)]
  | .union name members => [("name", .str name), ("members", .str (membersText members))]

end Declaration

namespace Block

/-- The name of the template that stands for a block. -/
def templateName : String := "namespace.ts.j2"

/-- The values that a template for a block can show. -/
def context (indent name : Json) (declarations : List String) : List (String × Json) :=
  [("name", name), ("declarations", .arr (declarations.map .str)), ("indent", indent)]

end Block

/-! ## Standard forms from a context -/

namespace StandardForm

/-- The text of a value of a context; what is absent leaves nothing. -/
def textOf (context : List (String × Json)) (key : String) : String :=
  ((Json.field? key context).map Json.text).getD ""

/-- The items of a value of a context; what is absent has none. -/
def itemsOf (context : List (String × Json)) (key : String) : Except Fault (List Json) :=
  match Json.field? key context with
  | none => .ok []
  | some value => value.items

/-- The items of a value of a context that counts as given. -/
def givenItemsOf (context : List (String × Json)) (key : String) : Except Fault (List Json) :=
  match Json.field? key context with
  | none => .ok []
  | some value => if value.isTruthy then value.items else .ok []

/-- The text of a field of an item; what is no object has no fields. -/
def fieldText (key : String) (item : Json) : String :=
  ((item.get? key).map Json.text).getD ""

/-- A block whose declarations are texts. -/
def block (context : List (String × Json)) : Except Fault String := do
  let declarations ← itemsOf context "declarations"
  let margin ← if declarations.isEmpty then .ok ""
    else marginOf ((Json.field? "indent" context).getD (.str ""))
  .ok (Block.wrap margin (textOf context "name") (declarations.map Json.text))

/-- An interface. -/
def interface (context : List (String × Json)) : Except Fault String := do
  let parameters ← givenItemsOf context "type_parameters"
  let properties ← itemsOf context "properties"
  .ok (Declaration.interfaceText (textOf context "indent") (textOf context "name")
    (parameters.map Json.text)
    (properties.map fun p => (fieldText "name" p, fieldText "type" p)))

/-- An enum. -/
def enum (context : List (String × Json)) : Except Fault String := do
  let members ← itemsOf context "members"
  .ok (Declaration.enumText (textOf context "indent") (textOf context "name")
    (members.map fun m => (fieldText "name" m, fieldText "value" m)))

/-- A union. -/
def union (context : List (String × Json)) : Except Fault String := do
  let members ← givenItemsOf context "members"
  .ok (Declaration.unionText (textOf context "name") (members.map (fieldText "name")))

/-- The standard forms with the names of their templates. -/
def all : List (String × (List (String × Json) → Except Fault String)) :=
  [("namespace.ts.j2", block), ("interface.ts.j2", interface), ("enum.ts.j2", enum),
   ("union.ts.j2", union)]

/-- The text that the standard form with a name makes of a context. -/
def render (name : String) (context : List (String × Json)) : Except Fault String :=
  match all.lookup name with
  | none => .error (.template name name)
  | some form => do
    let context ← Template.Store.contextFor name context
    (form context).mapError fun fault => .template name fault.message

end StandardForm

end Ambient
