/-
  Ambient.Config.Basic

  The configuration of a run. Settings whose values a document may give in any kind keep them as
  they are given; what cannot be used is found out when it is used.
-/
import Ambient.Config.Keys
import Ambient.Fault

namespace Ambient

/-! ## Styles of enums -/

/-- How enums are declared: with numbers, with strings, or as a union of string literals. -/
inductive EnumStyle where
  | numeric | string | stringLiteral
  deriving DecidableEq, Repr

namespace EnumStyle

/-- The word for a style. -/
def word : EnumStyle → String
  | .numeric => "numeric"
  | .string => "string"
  | .stringLiteral => "string_literal"

/-- All styles. -/
def all : List EnumStyle := [.numeric, .string, .stringLiteral]

/-- The style that a value means. Its spelling is as free as that of a key. -/
def ofJson (value : Json) : Except Fault EnumStyle :=
  match all.find? fun style => Config.normalKey style.word == Config.normalKey value.text with
  | some style => .ok style
  | none => .error (.config (.invalidEnumStyle value.text))

end EnumStyle

/-! ## Configurations -/

/-- Which types of one source namespace are declared. -/
structure Rule where
  scope : Json
  includeTypes : Json := .arr []
  excludeTypes : Json := .arr []
  includeGenericTypes : Json := .arr []
  excludeGenericTypes : Json := .arr []
  includeNested : Json := .bool false
  deriving Repr

/-- The name of the file that declarations are written to by default. -/
def defaultOutputFileName : String := "models.gen.ts"

/-- The part of a name that hides a declaration by default. -/
def defaultMarker : String := "Guid"

/-- The settings of a run. -/
structure Config where
  manifest : Json := .null
  manifests : Json := .null
  outputPath : Json := .str ""
  outputFileName : Json := .str defaultOutputFileName
  outputNamespace : Json := .null
  baseDirectory : Json := .null
  includeStaticClasses : Json := .bool false
  rules : List Rule := []
  enumStyle : EnumStyle := .numeric
  hiddenMarker : Json := .str defaultMarker
  indentSize : Json := .int 4
  useTabs : Json := .bool false
  deriving Repr

namespace Config

/-! ## Indentation -/

/-- Counts lie in the range of 64-bit integers. -/
def isCount (n : Int) : Bool :=
  -9223372036854775808 ≤ n && n < 9223372036854775808

/-- A number of spaces, none where the number is negative. -/
def spaces (n : Int) : Except Fault String :=
  if isCount n then .ok (String.ofList (List.replicate n.toNat ' '))
  else unsuitable .countTooLarge

/-- One level of indentation: a tab, or as many spaces as are set. -/
def indent (config : Config) : Except Fault String :=
  if config.useTabs.isTruthy then .ok "\t"
  else match config.indentSize.asInt? with
    | some n => spaces n
    | none => unsuitable (.notCount config.indentSize.kind)

/-- The configured manifests: the list of them, or else the single one. -/
def manifestPaths (config : Config) : Except Fault (List Json) :=
  if config.manifests.isTruthy then config.manifests.items
  else if config.manifest.isTruthy then .ok [config.manifest]
  else .ok []

end Config

end Ambient
