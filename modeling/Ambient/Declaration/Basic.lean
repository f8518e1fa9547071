/-
  Ambient.Declaration.Basic

  Declarations of the target language and the namespace blocks that hold them. Types are texts
  already, and names and values are written as they are; what is printed here is the form around them.
-/
import Ambient.Json.Text
import Ambient.Model.Basic
import Ambient.Text.Margin

namespace Ambient

/-! ## Declarations -/

/-- A declaration inside a namespace. The members of an enum come with what is written for their
values. -/
inductive Declaration where
  | interface (name : String) (parameters : List Json) (properties : List (Json × String))
  | enum (name : String) (members : List (Json × Json))
  | union (name : String) (members : List EnumMember)
  deriving Repr

namespace Declaration

/-- The name that is declared. -/
def name : Declaration → String
  | .interface name _ _ => name
  | .enum name _ => name
  | .union name _ => name

/-- Type parameters in angle brackets, or nothing where there are none. -/
def parameterList (parameters : List String) : String :=
  if parameters.isEmpty then "" else "<" ++ String.joinWith ", " parameters ++ ">"

/-- The line of a property. -/
def propertyLine (indent : String) (property : String × String) : String :=
  indent ++ property.1 ++ ": " ++ property.2 ++ ";\n"

/-- The text of an interface. -/
def interfaceText (indent name : String) (parameters : List String)
    (properties : List (String × String)) : String :=
  "export interface " ++ name ++ parameterList parameters ++ " \x7b\n" ++
    String.join (properties.map (propertyLine indent)) ++ "\x7d"

/-- The lines of the members of an enum, with a comma after all but the last. -/
def memberLines (indent : String) : List (String × String) → String
  | [] => ""
  | [(name, value)] => indent ++ name ++ " = " ++ value ++ "\n"
  | (name, value) :: rest =>
    indent ++ name ++ " = " ++ value ++ ",\n" ++ memberLines indent rest

/-- The text of an enum. -/
def enumText (indent name : String) (members : List (String × String)) : String :=
  "export enum " ++ name ++ " \x7b\n" ++ memberLines indent members ++ "\x7d"

/-- A text in double quotes. -/
def literal (text : String) : String :=
  "\"" ++ text ++ "\""

/-- The alternatives of a union; one without alternatives has no values. -/
def alternatives (members : List String) : String :=
  if members.isEmpty then "never" else String.joinWith " | " (members.map literal)

/-- The text of a union. -/
def unionText (name : String) (members : List String) : String :=
  "export type " ++ name ++ " = " ++ alternatives members ++ ";"

/-- The text of a declaration, with `indent` in front of what is inside it. -/
def text (indent : String) : Declaration → String
  | .interface name parameters properties =>
    interfaceText indent name (parameters.map Json.text)
      (properties.map fun (name, type) => (name.text, type))
  | .enum name members =>
    enumText indent name (members.map fun (name, value) => (name.text, value.text))
  | .union name members => unionText name (members.map (·.name.text))

end Declaration

/-! ## Blocks -/

/-- All declarations of a namespace. -/
structure Block where
  name : Json
  declarations : List Declaration
  deriving Repr

namespace Block

/-- The text of a namespace around the texts of its declarations. -/
def wrap (indent name : String) (declarations : List String) : String :=
  "declare namespace " ++ name ++ " \x7b\n" ++
    String.join (declarations.map fun d => d.indentedBy indent ++ "\n") ++ "\x7d"

/-- The text of a block. -/
def text (indent : String) (block : Block) : String :=
  wrap indent block.name.text (block.declarations.map (Declaration.text indent))

end Block

/-- The texts of all blocks with a blank line between each two, and a line break at the end; nothing
where there is no block. -/
def joinBlocks (blocks : List String) : String :=
  if blocks.isEmpty then "" else String.joinWith "\n\n" blocks ++ "\n"

end Ambient
