/-
  Ambient.Pipeline

  A whole run: manifests are loaded, symbols selected, the model built, declarations generated and
  brought into their final form, and the text written to the output file.
-/
import Ambient.Discovery
import Ambient.Generation
import Ambient.Selection

namespace Ambient

/-- A run that is ready to begin. -/
structure Pipeline where
  config : Config
  generator : Generator

namespace Pipeline

/-- The run that a configuration asks for. -/
def ofConfig (config : Config) : Except Fault Pipeline := do
  let generator ← Generator.ofConfig config
  .ok { config, generator }

variable (p : Pipeline)

/-- The symbols to declare. -/
def discover (world : World) : Except Fault (List TypeSymbol) := do
  let symbols ← Discovery.loadConfigured world p.config
  p.config.select symbols

/-! ## Text -/

/-- The final text. Warnings are there if declarations were generated. -/
structure Rendering where
  text : String
  warnings : Option (List String) := none
  deriving DecidableEq, Repr

/-- The final text for some symbols; no symbols need no generation. -/
def renderSymbols (symbols : List TypeSymbol) : Except Fault Rendering := do
  if symbols.isEmpty then .ok { text := "" }
  else
    let model ← Model.ofSymbols symbols
    match p.generator.outcome model {} with
    | .failed cause => .error (.generation (Outcome.failureMessage cause))
    | .done generation => do
      let text ← Sweep.finishWith p.config.hiddenMarker generation.code
      .ok { text, warnings := some generation.warnings }

/-- The final text for some symbols, or for those to be discovered. -/
def render (world : World) (symbols : Option (List TypeSymbol)) : Except Fault Rendering := do
  match symbols with
  | some symbols => p.renderSymbols symbols
  | none => p.renderSymbols (← p.discover world)

/-! ## Output -/

/-- The path of the output file: a directory seen from another one, and the name of a file in it. -/
def outputPath (cwd : Path) (directory fileName : Json) : Except Fault Path := do
  let directory ← Discovery.pathOf directory
  let file ← Discovery.pathOf fileName
  let path := (cwd.join directory).join file
  if path.text.toList.contains (Char.ofNat 0) then .error (.file .invalidPath)
  else .ok path

/-- What a run leaves behind. The output path is there if something was written. -/
structure Run where
  output : Option Path
  warnings : Option (List String)
  files : FileTree

/-- The files with a text in the output file and with the directories that lead to it. -/
def writeOutput (files : FileTree) (path : Path) (text : String) : Except Fault FileTree := do
  let files ← (files.makeDirectory { path with steps := path.steps.dropLast }).mapError Fault.file
  (files.write path (text ++ "\n")).mapError Fault.file

/-- What is left behind once a final text is written. Nothing is written where there is nothing to
declare. -/
def write (world : World) (rendering : Rendering) : Except Fault Run := do
  if rendering.text.isEmpty then
    .ok { output := none, warnings := rendering.warnings, files := world.files }
  else
    let cwd := Discovery.workingDirectory world
    let path ← outputPath cwd p.config.outputPath p.config.outputFileName
    let path := Path.resolve cwd path
    let files ← writeOutput world.files path rendering.text
    .ok { output := some path, warnings := rendering.warnings, files }

/-- The whole run. -/
def run (world : World) : Except Fault Run := do
  p.write world (← p.render world none)

end Pipeline

end Ambient
