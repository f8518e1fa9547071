/-
  Ambient.Config.Document

  Configurations as JSON objects. Reading fills in what an object leaves out, and writing leaves
  out what is null, so that a written configuration reads back as it was.
-/
import Ambient.Config.Basic
import Ambient.Json.Writer

namespace Ambient

/-! ## Reading -/

namespace Rule

/-- The names of the settings of a rule. -/
def settingNames : List String :=
  ["namespace", "include_types", "exclude_types", "include_generic_types", "exclude_generic_types",
   "include_nested"]

/-- A list of patterns; null stands for none. -/
def patterns (settings : List (String × Json)) (name : String) : Json :=
  match Json.getOr settings name .null with
  | .null => .arr []
  | value => value

/-- The rule that an entry of a configuration gives: a namespace alone, or an object. -/
def ofJson (entry : Json) : Except Fault Rule :=
  match entry with
  | .str name => .ok { scope := .str name }
  | .obj data =>
    let settings := Config.settingsOf settingNames data
    .ok {
      scope := Json.getOr settings "namespace" (.str "")
      includeTypes := patterns settings "include_types"
      excludeTypes := patterns settings "exclude_types"
      includeGenericTypes := patterns settings "include_generic_types"
      excludeGenericTypes := patterns settings "exclude_generic_types"
      includeNested := Json.getOr settings "include_nested" (.bool false) }
  | _ => .error (.config (.invalidRule entry.display))

/-- The rules that the entry for namespaces gives. -/
def listOfJson (entries : Json) : Except Fault (List Rule) :=
  match entries.orElse (.arr []) with
  | .arr entries => entries.mapM ofJson
  | _ => .error (.config .rulesNotList)

end Rule

namespace Config

/-- The names of the settings of a configuration. -/
def settingNames : List String :=
  ["manifest", "manifests", "output_path", "output_file_name", "output_namespace", "base_directory",
   "include_static_classes", "namespaces", "enum_style", "hidden_type_marker", "indent_size",
   "use_tabs"]

/-- The style that a configuration sets, or that of numbers. -/
def enumStyleOf (settings : List (String × Json)) : Except Fault EnumStyle :=
  match Json.field? "enum_style" settings with
  | none => .ok .numeric
  | some value => EnumStyle.ofJson value

/-- The name of the output file; null stands for the default. -/
def outputFileNameOf (settings : List (String × Json)) : Json :=
  match Json.getOr settings "output_file_name" .null with
  | .null => .str defaultOutputFileName
  | value => value

/-- The configuration that settings give. -/
def ofSettings (settings : List (String × Json)) : Except Fault Config := do
  let rules ← Rule.listOfJson (Json.getOr settings "namespaces" .null)
  let enumStyle ← enumStyleOf settings
  .ok {
    manifest := Json.getOr settings "manifest" .null
    manifests := Json.getOr settings "manifests" .null
    outputPath := Json.getOr settings "output_path" (.str "")
    outputFileName := outputFileNameOf settings
    outputNamespace := Json.getOr settings "output_namespace" .null
    baseDirectory := Json.getOr settings "base_directory" .null
    includeStaticClasses := Json.getOr settings "include_static_classes" (.bool false)
    rules, enumStyle
    hiddenMarker := Json.getOr settings "hidden_type_marker" (.str defaultMarker)
    indentSize := Json.getOr settings "indent_size" (.int 4)
    useTabs := Json.getOr settings "use_tabs" (.bool false) }

/-- The configuration that the fields of an object give. -/
def ofFields (data : List (String × Json)) : Except Fault Config :=
  ofSettings (settingsOf settingNames data)

/-- The configuration that a value gives; only objects give one. -/
def ofJson (data : Json) : Except Fault Config :=
  match data with
  | .obj fields => ofFields fields
  | _ => unsuitable (.noMember data.kind "items")

end Config

/-! ## Writing -/

/-- A rule as an object. -/
def Rule.toJson (rule : Rule) : Json :=
  .obj [
    ("namespace", rule.scope),
    ("includeTypes", rule.includeTypes),
    ("excludeTypes", rule.excludeTypes),
    ("includeGenericTypes", rule.includeGenericTypes),
    ("excludeGenericTypes", rule.excludeGenericTypes),
    ("includeNested", rule.includeNested)]

namespace Config

/-- All settings of a configuration under the names that a document gives them. -/
def toFields (config : Config) : List (String × Json) :=
  [ ("manifest", config.manifest),
    ("manifests", config.manifests),
    ("outputPath", config.outputPath),
    ("outputFileName", config.outputFileName),
    ("outputNamespace", config.outputNamespace),
    ("baseDirectory", config.baseDirectory),
    ("includeStaticClasses", config.includeStaticClasses),
    ("namespaces", .arr (config.rules.map Rule.toJson)),
    ("enumStyle", .str config.enumStyle.word),
    ("hiddenTypeMarker", config.hiddenMarker),
    ("indentSize", config.indentSize),
    ("useTabs", config.useTabs)]

/-- Whether a setting is given. -/
def isGiven : Json → Bool
  | .null => false
  | _ => true

/-- A configuration as an object, without the settings that are null. -/
def toJson (config : Config) : Json :=
  .obj (config.toFields.filter fun (_, value) => isGiven value)

/-- A configuration as a document. -/
def document (config : Config) : String :=
  config.toJson.indented

end Config

end Ambient
