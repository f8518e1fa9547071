/-
  Ambient.Log

  Loggers and their levels. All loggers are named below the program, and one handler is set up for
  all of them however often the level is set.
-/
import Ambient.Text.Split

namespace Ambient.Log

/-- The name of the logger above all others. -/
def rootName : String := "declgen"

/-- The name of the logger for a module. -/
def loggerName (name : Option String) : String :=
  match name with
  | none => rootName
  | some name =>
    if name.isEmpty || name == rootName then rootName
    else if (rootName.toList ++ ['.']).isPrefixOf name.toList then name
    else rootName ++ "." ++ String.ofList (Text.afterLast '.' name.toList)

/-- The levels that messages can have. -/
inductive Level where
  | debug | info | warning
  deriving DecidableEq, Repr

/-- The number of a level. -/
def Level.number : Level → Nat
  | .debug => 10
  | .info => 20
  | .warning => 30

/-- The level for the wishes of a user; the wish for more messages wins. -/
def levelFor (verbose quiet : Bool) : Level :=
  if verbose then .debug else if quiet then .warning else .info

/-- The levels of the handlers that have been set up. -/
structure Setup where
  handlers : List Level := []
  deriving DecidableEq, Repr

/-- The setup with a level set: for the handler that is there, or else for a new one. -/
def Setup.configure (setup : Setup) (level : Level) : Setup :=
  match setup.handlers with
  | [] => { handlers := [level] }
  | _ :: others => { handlers := level :: others }

end Ambient.Log
