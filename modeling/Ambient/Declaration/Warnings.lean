/-
  Ambient.Declaration.Warnings

  What is suspicious about a model without being wrong: empty classes and enums, and names that are
  declared more than once in a namespace.
-/
import Ambient.Declaration.Emission

namespace Ambient

/-! ## Empty entries -/

/-- The warnings about the empty entries of a module. -/
def Module.emptyWarnings (m : Module) : List String :=
  (m.classes.filter (·.properties.isEmpty)).map
      (fun entry => "Class '" ++ m.name.text ++ "." ++ entry.name ++ "' has no properties") ++
    (m.enums.filter (·.members.isEmpty)).map
      (fun entry => "Enum '" ++ m.name.text ++ "." ++ entry.name ++ "' has no members")

/-! ## Collisions -/

/-- The names that came before among some names, where `seen` came before all of them. -/
def repeated (seen : List String) : List String → List String
  | [] => []
  | name :: rest =>
    if seen.contains name then name :: repeated seen rest else repeated (name :: seen) rest

/-- The warning about a name that is declared again. -/
def duplicateWarning (scope : Json) (name : String) : String :=
  "Duplicate declaration '" ++ name ++ "' in namespace '" ++ scope.text ++ "'"

/-- The warnings about the collisions in a namespace. -/
def collisionWarnings (scope : Json) (modules : List Module) : List String :=
  (repeated [] (modules.flatMap Module.entryNames)).map (duplicateWarning scope)

/-- All warnings about a model. -/
def Generator.warnings (g : Generator) (model : Model) : Except Fault (List String) := do
  let resolution ← g.resolve model
  .ok (model.modules.flatMap Module.emptyWarnings ++
    resolution.groups.flatMap fun (scope, modules) => collisionWarnings scope modules)

end Ambient
