/-
  Ambient.CommandLine.Run

  What a run from the command line does: its configuration with what the command line overrides,
  what it comes to, the files it leaves behind and its exit code. How it is shown is told apart from
  this in Ambient.CommandLine.Report.
-/
import Ambient.CommandLine.Arguments
import Ambient.Pipeline

namespace Ambient.CommandLine

/-! ## Configuration -/

/-- A text that counts as given. -/
def given (value : Option String) : Option String :=
  value.filter (!·.isEmpty)

/-- The path of the configuration file; a relative one starts at the base directory. -/
def Arguments.configPath (arguments : Arguments) : Path :=
  let path := Path.ofText arguments.config
  match given arguments.baseDirectory with
  | some base => (Path.ofText base).join path
  | none => path

/-- The configuration with what the command line overrides. -/
def Arguments.override (arguments : Arguments) (config : Config) : Config :=
  { config with
    baseDirectory := ((given arguments.baseDirectory).map Json.str).getD config.baseDirectory
    outputNamespace := ((given arguments.outputNamespace).map Json.str).getD config.outputNamespace
    enumStyle := arguments.enumStyle.getD config.enumStyle }

/-- The configuration of a run. -/
def Arguments.load (arguments : Arguments) (files : FileTree) : Except Fault Config := do
  let config ← Config.load files arguments.configPath
  .ok (arguments.override config)

/-- The paths of the manifests in files that some arguments lead to. -/
def Arguments.manifestFiles (arguments : Arguments) (files : FileTree) : List Path :=
  match arguments.load files with
  | .error _ => []
  | .ok config =>
    let locations := config.manifestPaths.toOption.getD []
    let cwd : Path := { root := "/", steps := files.cwd }
    locations.filterMap fun location =>
      (Discovery.resolveLocation cwd config.baseDirectory location).toOption.map Path.ofText

/-! ## Outcomes -/

/-- What a run comes to that does not fail: a text to be printed, or a finished run with its
configuration. -/
inductive Outcome where
  | printed (text : String)
  | finished (config : Config) (run : Pipeline.Run)

/-- The run that some arguments ask for. -/
def Arguments.perform (arguments : Arguments) (world : World) : Except Fault Outcome := do
  let config ← arguments.load world.files
  let pipeline ← Pipeline.ofConfig config
  if arguments.stdout then .ok (.printed (← pipeline.render world none).text)
  else .ok (.finished config (← pipeline.run world))

/-- The files after a run that does not fail. -/
def Outcome.files (before : FileTree) : Outcome → FileTree
  | .printed _ => before
  | .finished _ run => run.files

/-! ## Exit codes -/

/-- The ways in which a run can end. -/
inductive Exit where
  | ok | notFound | badConfiguration | unexpected
  deriving DecidableEq, Repr

/-- The number of an exit code. -/
def Exit.code : Exit → Nat
  | .ok => 0
  | .notFound => 1
  | .badConfiguration => 2
  | .unexpected => 3

/-- The exit code of wrong usage. -/
def usageCode : Nat := 2

/-- How a run ends that fails. -/
def Exit.ofFault : Fault → Exit
  | .configMissing _ | .fileMissing _ | .file (.refused .missing _) => .notFound
  | .config _ | .discovery _ | .manifest _ => .badConfiguration
  | _ => .unexpected

/-- How a run ends, if all of it can be shown. -/
def Exit.ofResult : Except Fault Outcome → Exit
  | .ok _ => .ok
  | .error fault => .ofFault fault

end Ambient.CommandLine
