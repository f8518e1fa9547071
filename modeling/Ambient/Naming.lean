/-
  Ambient.Naming

  The names that declarations get: interface names with their prefix, property names with a small
  first letter, the namespace that a module goes to, and the last touch to the text of a member
  type.
-/
import Ambient.Model.Basic
import Ambient.Text.Case

namespace Ambient.Naming

/-! ## Interfaces -/

/-- Whether a name begins with an `I` that an upper-case character follows. -/
def hasInterfacePrefix (name : String) : Bool :=
  match name.toList with
  | first :: second :: _ => first == 'I' && Text.isUpper second
  | _ => false

/-- Whether a name looks like a type parameter: `T`, or a short name that goes on after a `T` with
an upper-case character. -/
def isParameterName (name : String) : Bool :=
  match name.toList with
  | ['T'] => true
  | first :: second :: rest => first == 'T' && Text.isUpper second && rest.length ≤ 4
  | _ => false

/-- The name of the interface that declares a class. Names with the prefix and names that look like
type parameters stay as they are. -/
def interfaceName (name : String) : String :=
  if hasInterfacePrefix name || isParameterName name then name else "I" ++ name

/-- The module with its classes under their interface names. -/
def prefixInterfaces (m : Module) : Module :=
  m.withClasses (m.classes.map fun entry => entry.renamed (interfaceName entry.name))

/-! ## Properties -/

/-- A name with its first character in lower case. -/
def propertyText (name : String) : String :=
  match name.toList with
  | [] => name
  | first :: rest => String.ofList (Text.lower [first] ++ rest)

/-- The name that a property is declared under. A name that is no text has no first letter to
make small. -/
def propertyName (property : Property) : Except Fault Json :=
  match property.name with
  | .str name => .ok (.str (propertyText name))
  | .arr (.str _ :: _) => unsuitable (.notJoinable .arr)
  | .arr (first :: _) => unsuitable (.noMember first.kind "lower")
  | .obj (_ :: _) => unsuitable .noFirstItem
  | name => if name.isTruthy then unsuitable (.notIndexable name.kind) else .ok name

/-! ## Modules -/

/-- The namespace that a module goes to, the one given for all modules if there is one, and the
module with its interfaces prefixed. -/
def formatModule (outputNamespace : Json) (m : Module) : Json × Module :=
  (outputNamespace.orElse m.name, prefixInterfaces m)

/-! ## Member types -/

/-- The last segment of a dotted name. -/
def lastSegment (name : String) : String :=
  String.ofList (Text.afterLast '.' name.toList)

/-- The names, in lower case, of the type that is written as a string. -/
def guidNames : List String := ["guid", "iguid"]

/-- The names of the types that are written as a date. -/
def dateNames : List String := ["System.DateTime", "System.DateTimeOffset"]

/-- The text of a type of the host in terms of the target language. -/
def hostType (text : String) : String :=
  if guidNames.contains (lastSegment text).lowered then "string"
  else if dateNames.contains text then "Date"
  else text

/-- The final text of the type of a member: a nullable one can also be null. -/
def memberType (property : Property) (text : String) : String :=
  if property.type.kind == .nullable then hostType text ++ " | null" else hostType text

end Ambient.Naming
