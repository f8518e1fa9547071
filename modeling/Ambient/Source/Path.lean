/-
  Ambient.Source.Path

  Paths of files. Empty steps and steps to the same directory are left out, steps to the directory
  above are kept; exactly two slashes at the start are a root of their own.
-/
import Ambient.Text.Split

namespace Ambient

/-- A path: its root, if it has one, and its steps. -/
structure Path where
  root : String := ""
  steps : List String := []
  deriving DecidableEq, Repr

namespace Path

/-- The steps of a text, without empty ones and those that stay where they are. -/
def stepsOf (text : String) : List String :=
  ((Text.splitOn '/' text.toList).map String.ofList).filter fun step => step != "" && step != "."

/-- The root that some slashes at the start of a path stand for. -/
def rootOf (slashes : Nat) : String :=
  if slashes == 0 then "" else if slashes == 2 then "//" else "/"

/-- The path that a text denotes. -/
def ofText (text : String) : Path :=
  { root := rootOf (text.toList.takeWhile (· == '/')).length, steps := stepsOf text }

/-- The text of a path. -/
def text (path : Path) : String :=
  if path.root == "" && path.steps.isEmpty then "."
  else path.root ++ String.joinWith "/" path.steps

/-- Whether a path starts at a root. -/
def isAbsolute (path : Path) : Bool :=
  path.root != ""

/-- A path from the end of another one; a path with a root stays as it is. -/
def join (base path : Path) : Path :=
  if path.isAbsolute then path else { base with steps := base.steps ++ path.steps }

/-- The steps without those to the directory above: each undoes the step before it, if there is
one. -/
def flattenFrom (before : List String) : List String → List String
  | [] => before
  | step :: rest =>
    if step == ".." then flattenFrom before.dropLast rest else flattenFrom (before ++ [step]) rest

/-- The path without steps to the directory above, seen from a directory. -/
def resolve (cwd path : Path) : Path :=
  { root := "/", steps := flattenFrom [] (cwd.join path).steps }

end Path

end Ambient
