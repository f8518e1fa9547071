/-
  Ambient.CommandLine.Report

  What a run from the command line shows: a summary of its settings, warnings, and a line about what
  came of it. A run that cannot be shown fails, but the files it wrote stay.
-/
import Ambient.CommandLine.Run
import Ambient.Console

namespace Ambient.CommandLine

/-! ## Summary -/

/-- The settings of a run as they are shown after it. -/
structure Summary where
  rows : List (String × String)
  warnings : List String
  deriving DecidableEq, Repr

/-- The text of a cell; only texts can be shown. -/
def cell (value : Json) : Except Fault String :=
  match value with
  | .str text => .ok text
  | _ => unsuitable (.notShown value.kind)

/-- The texts of some values with commas between them. -/
def listed (values : List Json) : Except Fault String := do
  .ok (String.joinWith ", " (← values.mapM cell))

/-- The rows of a summary before styles are taken out of them. -/
def rowsOf (config : Config) (output : Option Path) : Except Fault (List (String × String)) := do
  let manifests ← listed (← config.manifestPaths)
  let namespaces ← listed (config.rules.map (·.scope))
  let merged ← if config.outputNamespace.isTruthy then
      (fun text => [("Output Namespace", text)]) <$> cell config.outputNamespace
    else .ok []
  .ok ([("Manifests", manifests), ("Namespaces", namespaces),
    ("Enum Style", config.enumStyle.word)] ++ merged ++
    [("Output File", (output.map Path.text).getD "-")])

/-- The summary of a run. -/
def summarize (config : Config) (output : Option Path) (warnings : List String) :
    Except Fault Summary := do
  let rows ← (← rowsOf config output).mapM fun (name, value) => do
    .ok (name, ← Console.shown value)
  let warnings ← warnings.mapM fun warning =>
    Console.line ("[yellow]⚠️  " ++ warning ++ "[/yellow]")
  .ok { rows, warnings }

/-! ## Reports -/

/-- What a run shows, what it leaves behind and how it ends. -/
structure Report where
  exit : Exit
  summary : Option Summary := none
  text : String
  files : FileTree

/-- The final text that a run prints instead of writing it. -/
def printed (text : String) : String :=
  if text.isEmpty then "" else text ++ "\n"

/-- The line about the outcome of a run. -/
def outcomeLine : Option Path → String
  | some path => "[green]✓ Declarations written to[/green] " ++ path.text
  | none => "[yellow]⚠️  No types matched; nothing was written[/yellow]"

/-- The report of a run that does not fail; a finished one has a summary unless it is to be quiet. -/
def Arguments.report (arguments : Arguments) (files : FileTree) :
    Outcome → Except Fault Report
  | .printed text => .ok { exit := .ok, text := printed text, files }
  | .finished config run => do
    let summary ← if arguments.quiet then .ok none
      else some <$> summarize config run.output (run.warnings.getD [])
    let text ← Console.line (outcomeLine run.output)
    .ok { exit := .ok, summary, text, files }

/-- The words before the message of a fault. -/
def Exit.heading : Exit → String
  | .ok => ""
  | .notFound => "[red]✗ Error:[/red] "
  | .badConfiguration => "[red]✗ Configuration error:[/red] "
  | .unexpected => "[red]✗ Unexpected error:[/red] "

/-- The report of a run that failed, with the files that it leaves behind. -/
def failureReport (files : FileTree) (fault : Fault) : Except Fault Report := do
  let exit := Exit.ofFault fault
  let text ← Console.line (exit.heading ++ fault.message)
  .ok { exit, text, files }

/-- The report of the run that some arguments ask for. -/
def Arguments.execute (arguments : Arguments) (world : World) : Except Fault Report :=
  match arguments.perform world with
  | .error fault => failureReport world.files fault
  | .ok outcome =>
    let files := outcome.files world.files
    match arguments.report files outcome with
    | .ok report => .ok report
    | .error fault => failureReport files fault

/-! ## Answers -/

/-- How the program is used. -/
def usageLine : String :=
  "usage: declgen [-h] [--base-directory DIR] [--output-namespace NAME] " ++
    "[--enum-style STYLE] [--stdout] [--verbose | --quiet] [--version] [config]\n"

/-- The lines of a summary. -/
def Summary.text (summary : Summary) : String :=
  String.join (summary.rows.map fun (name, value) => name ++ ": " ++ value ++ "\n") ++
    String.join summary.warnings

/-- All that a report shows. -/
def Report.shown (report : Report) : String :=
  ((report.summary.map Summary.text).getD "") ++ report.text

/-- The version of the program. -/
def version : String := "0.1.0"

/-- The line with the version. -/
def versionLine : String := "declgen " ++ version ++ "\n"

/-- What a command line is answered with. -/
inductive Answer where
  | report (report : Report)
  | version
  | help
  | misuse

/-- The answer to the words of a command line. -/
def answer (texts : List String) (world : World) : Except Fault Answer :=
  match Invocation.ofWords texts with
  | .help => .ok .help
  | .version => .ok .version
  | .misuse => .ok .misuse
  | .run arguments => do .ok (.report (← arguments.execute world))

end Ambient.CommandLine
