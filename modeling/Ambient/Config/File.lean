/-
  Ambient.Config.File

  Configurations in files. A configuration that is loaded has been checked.
-/
import Ambient.Config.Check
import Ambient.Config.Document
import Ambient.Json.Nesting
import Ambient.Source.FileTree

namespace Ambient.Config

/-- The name of the configuration file by default. -/
def defaultFileName : String := "declgen.json"

/-- The fault of a configuration file that could not be read. -/
def readFault (path : Path) : FileFault → Fault
  | .refused problem text =>
    .config (.unreadable path.text (FileFault.refused problem text).message)
  | fault => .file fault

/-- The value in a configuration file. -/
def documentAt (files : FileTree) (path : Path) : Except Fault Json := do
  let text ← (files.read path).mapError (readFault path)
  if Json.isTooDeep text then .error .tooDeep
  else
    match Json.parse text with
    | .ok data => .ok data
    | .error (.tooManyDigits count) => .error (.tooManyDigits count)
    | .error fault => .error (.config (.malformed path.text fault.message))

/-- The configuration in a file, checked. -/
def load (files : FileTree) (path : Path) : Except Fault Config := do
  let present ← (files.contains path).mapError Fault.file
  if !present then .error (.configMissing path.text)
  else
    let data ← documentAt files path
    match data with
    | .obj fields => do
      let config ← ofFields fields
      check config
      .ok config
    | _ => .error (.config (.notObject path.text))

/-- The fault of a configuration file that could not be written. -/
def writeFault (path : Path) : FileFault → Fault
  | .refused problem text =>
    .config (.unwritable path.text (FileFault.refused problem text).message)
  | fault => .file fault

/-- The files with a configuration saved in one of them. -/
def save (config : Config) (files : FileTree) (path : Path) : Except Fault FileTree :=
  (files.write path config.document).mapError (writeFault path)

end Ambient.Config
