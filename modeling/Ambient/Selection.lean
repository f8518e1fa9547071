/-
  Ambient.Selection

  Which symbols the rules of a configuration select. A rule names a namespace, with or without the
  namespaces inside it, and gives patterns for the names of its types. Only public types that are
  not nested are selected, and static classes only where they are asked for.
-/
import Ambient.Config.Basic
import Ambient.Keeping
import Ambient.Symbol.TypeSymbol
import Ambient.Text.Split

namespace Ambient

namespace Rule

/-! ## Namespaces -/

/-- Whether a text starts with a namespace and a dot. -/
def isInside (scope parent : String) : Bool :=
  (parent.toList ++ ['.']).isPrefixOf scope.toList

/-- Whether the namespace of a symbol lies inside that of a rule. -/
def encloses (rule : Rule) (scope : Json) : Except Fault Bool := do
  let inner ← scope.textFor "startswith"
  match rule.scope with
  | .str parent => .ok (isInside inner parent)
  | other => unsuitable (.notExtensible other.kind)

/-- What a rule says about the namespace of a symbol: an answer, or the setting for namespaces
inside that of the rule where that setting is off. -/
def coverage (rule : Rule) (symbol : TypeSymbol) : Except Fault Json :=
  match symbol.scope with
  | .null => .ok (.bool false)
  | scope =>
    if scope.equals rule.scope then .ok (.bool true)
    else if rule.includeNested.isTruthy then .bool <$> rule.encloses scope
    else .ok rule.includeNested

/-- Whether a rule is about the namespace of a symbol. -/
def coversScope (rule : Rule) (symbol : TypeSymbol) : Except Fault Bool :=
  Json.isTruthy <$> rule.coverage symbol

/-! ## Patterns -/

/-- Whether a name in lower case holds one of some patterns, whatever their case. -/
def anyOccurs (lowered : List Char) : List Json → Except Fault Bool
  | [] => .ok false
  | pattern :: rest => do
    let p ← pattern.textFor "lower"
    if Text.occursIn (Text.lower p.toList) lowered then .ok true else anyOccurs lowered rest

/-- Whether a name matches a list of patterns. -/
def matchesAny (name : String) (patterns : Json) : Except Fault Bool := do
  anyOccurs (Text.lower name.toList) (← patterns.items)

/-- Whether the patterns of a rule admit a symbol. Without patterns to include all names are
included, and a name to be excluded is never included. -/
def admitsName (rule : Rule) (symbol : TypeSymbol) : Except Fault Bool := do
  let generic ← symbol.isGenericDefinition
  let included := if generic then rule.includeGenericTypes else rule.includeTypes
  let excluded := if generic then rule.excludeGenericTypes else rule.excludeTypes
  let missed ← if included.isTruthy then (!·) <$> matchesAny symbol.simpleName included
    else .ok false
  if missed then .ok false
  else if excluded.isTruthy then (!·) <$> matchesAny symbol.simpleName excluded
  else .ok true

end Rule

namespace TypeSymbol

/-- Whether a type can be seen from outside: it is public and not nested. -/
def isEligible (s : TypeSymbol) : Bool :=
  s.isPublic && !s.isNested

/-- Whether a type is anything but a static class. -/
def isNotStaticClass (s : TypeSymbol) : Bool :=
  s.kind == .interface || s.kind == .enum || !s.isStatic

end TypeSymbol

/-! ## Selection -/

/-- Whether a rule selects a symbol. -/
def Rule.selects (rule : Rule) (staticClasses : Bool) (symbol : TypeSymbol) :
    Except Fault Bool := do
  if !(← rule.coversScope symbol) then .ok false
  else if !symbol.isEligible then .ok false
  else if !staticClasses && !symbol.isNotStaticClass then .ok false
  else rule.admitsName symbol

/-- The symbols that the rules select, rule by rule, and for each rule in the order of the symbols.
A symbol that several rules select comes once for each of them. -/
def selectAll (staticClasses : Bool) (symbols : List TypeSymbol) :
    List Rule → Except Fault (List TypeSymbol)
  | [] => .ok []
  | rule :: rest => do
    let selected ← keepIf (rule.selects staticClasses) symbols
    let others ← selectAll staticClasses symbols rest
    .ok (selected ++ others)

/-- The symbols that a configuration selects. -/
def Config.select (config : Config) (symbols : List TypeSymbol) : Except Fault (List TypeSymbol) :=
  selectAll config.includeStaticClasses.isTruthy symbols config.rules

end Ambient
