/-
  Ambient.Generation

  A complete generation: the tidy text of a model with its warnings and counts, and the same for a
  list of symbols with the text in its final form.
-/
import Ambient.Declaration.Tidy
import Ambient.Declaration.Warnings
import Ambient.Model.Builder
import Ambient.Sweep.Finish

namespace Ambient

/-- The text of a model, and what can be said about it. -/
structure Generation where
  code : String
  warnings : List String
  moduleCount : Nat
  classCount : Nat
  enumCount : Nat
  deriving DecidableEq, Repr

/-- What comes of a generation. -/
inductive Outcome where
  | done (generation : Generation)
  | failed (cause : Fault)

namespace Outcome

/-- The name of the target language. -/
def language : String := "typescript"

/-- The ending of the names of files in the target language. -/
def fileExtension : String := ".ts"

/-- The words for a generation that failed. -/
def failureMessage (cause : Fault) : String :=
  "Code generation failed: " ++ cause.message

end Outcome

namespace Generator

/-- The text of a model with its warnings, if it can be generated. -/
def generation (g : Generator) (model : Model) (output : Output) : Except Fault Generation := do
  let warnings ← g.warnings model
  let code ← g.generate model output
  .ok {
    warnings
    code := code.tidied
    moduleCount := model.modules.length
    classCount := model.classCount
    enumCount := model.enumCount }

/-- What comes of a model. -/
def outcome (g : Generator) (model : Model) (output : Output) : Outcome :=
  match g.generation model output with
  | .ok generation => .done generation
  | .error cause => .failed cause

end Generator

/-- The generator for a configuration, or the one for none. -/
def Generator.ofConfig? : Option Config → Except Fault Generator
  | none => .ok {}
  | some config => Generator.ofConfig config

/-- The setting of the marker in a configuration, or the one for none. -/
def Config.markerOf : Option Config → Json
  | none => .str defaultMarker
  | some config => config.hiddenMarker

/-- The final declarations of some symbols. -/
def generateDeclarations (symbols : List TypeSymbol) (config : Option Config) :
    Except Fault Outcome := do
  let model ← Model.ofSymbols symbols
  let generator ← Generator.ofConfig? config
  match generator.outcome model {} with
  | .failed cause => .ok (.failed cause)
  | .done generation => do
    let code ← Sweep.finishWith (Config.markerOf config) generation.code
    .ok (.done { generation with code })

end Ambient
