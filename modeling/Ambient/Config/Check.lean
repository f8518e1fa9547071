/-
  Ambient.Config.Check

  What a configuration must give before a run: one source of manifests, an output file, and at
  least one namespace. The first thing that is wrong is reported.
-/
import Ambient.Config.Basic
import Ambient.Text.Edges

namespace Ambient.Config

/-- Whether a value is a text that is not blank. A value that counts as given must be a text. -/
def isFilled (value : Json) : Except Fault Bool :=
  if value.isTruthy then do
    let s ← value.textFor "strip"
    .ok (!s.isAllBlank)
  else .ok false

/-- Whether all of some values are texts that are not blank; the first that is not ends the search. -/
def allFilled : List Json → Except Fault Bool
  | [] => .ok true
  | value :: rest => do
    if ← isFilled value then allFilled rest else .ok false

/-- The refusal of a configuration unless a condition holds. -/
def demand (condition : Bool) (fault : ConfigFault) : Except Fault Unit :=
  if condition then .ok () else .error (.config fault)

/-- Whether the size of the indentation is less than zero. -/
def isNegativeSize (size : Json) : Except Fault Bool :=
  match size with
  | .float x => .ok x.isNegative
  | _ =>
    match size.asInt? with
    | some n => .ok (decide (n < 0))
    | none => unsuitable (.notOrdered size.kind)

/-- Refuses a configuration with which no run can begin. -/
def check (config : Config) : Except Fault Unit := do
  let single ← isFilled config.manifest
  let several := config.manifests.isTruthy
  demand (single || several) .noManifest
  demand (!(single && several)) .manifestTwice
  if several then
    demand (← allFilled (← config.manifests.items)) .emptyManifest
  demand (← isFilled config.outputPath) .noOutputPath
  demand (← isFilled config.outputFileName) .noOutputFileName
  demand (!config.rules.isEmpty) .noNamespace
  demand (← allFilled (config.rules.map (·.scope))) .emptyNamespace
  demand (!(← isNegativeSize config.indentSize)) .negativeIndent

end Ambient.Config
