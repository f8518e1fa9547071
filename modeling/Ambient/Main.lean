/-
  Ambient.Main

  The program. The files that a run reads are collected first, the run itself is a function of them,
  and what it leaves behind is written last. Pages of the web are out of reach.
-/
import Ambient.CommandLine.Report

open Ambient

namespace Ambient.Main

/-- The tree with what is found at the end of a path: a file, a directory, or nothing. -/
def look (files : FileTree) (path : Path) : IO FileTree := do
  try
    let bytes ← IO.FS.readBinFile path.text
    return files.record path (some bytes)
  catch
    | .inappropriateType .. => return files.record path none
    | _ => return files

/-- The files that a run reads. -/
def collect (arguments : CommandLine.Arguments) (files : FileTree) : IO FileTree := do
  let files ← look files arguments.configPath
  (arguments.manifestFiles files).foldlM look files

/-- Writes the files that a run leaves behind. -/
def store (before after : FileTree) : IO Unit :=
  for (place, bytes) in FileTree.changes before after do
    IO.FS.createDirAll (Path.text { root := "/", steps := place.dropLast })
    IO.FS.writeBinFile (Path.text { root := "/", steps := place }) bytes

/-- Runs the program on the words of a command line. -/
def run (words : List String) : IO UInt32 := do
  let cwd := Path.ofText (← IO.currentDir).toString
  let empty : FileTree := { directories := [cwd.steps], cwd := cwd.steps }
  let files ← match CommandLine.Invocation.ofWords words with
    | .run arguments => collect arguments empty
    | _ => pure empty
  match CommandLine.answer words { files } with
  | .error fault =>
    IO.eprintln fault.message
    return CommandLine.Exit.unexpected.code.toUInt32
  | .ok .help =>
    IO.print CommandLine.usageLine
    return 0
  | .ok .version =>
    IO.print CommandLine.versionLine
    return 0
  | .ok .misuse =>
    IO.eprint CommandLine.usageLine
    return CommandLine.usageCode.toUInt32
  | .ok (.report report) =>
    store files report.files
    IO.print report.shown
    return report.exit.code.toUInt32

end Ambient.Main

/-- The program. -/
def main (words : List String) : IO UInt32 :=
  Ambient.Main.run words
