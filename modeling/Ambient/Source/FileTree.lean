/-
  Ambient.Source.FileTree

  A tree of files and directories, and what can be done with a path in it: to ask whether something
  is there, to read and write the text of a file, and to make directories.
-/
import Ambient.Fault
import Ambient.Source.Path
import Ambient.Text.Breaks
import Ambient.Text.Utf8

namespace Ambient

/-- Files with their bytes and directories, by the steps from the root, and the directory from which
relative paths start. A directory is there with everything in it. -/
structure FileTree where
  files : List (List String × ByteArray) := []
  directories : List (List String) := []
  cwd : List String := []

namespace FileTree

/-! ## What is there -/

/-- The bytes of the file at a place. -/
def bytes? (tree : FileTree) (place : List String) : Option ByteArray :=
  tree.files.lookup place

/-- Whether there is a file at a place. -/
def isFile (tree : FileTree) (place : List String) : Bool :=
  (tree.bytes? place).isSome

/-- Whether there is a directory at a place. -/
def isDirectory (tree : FileTree) (place : List String) : Bool :=
  place.isEmpty || tree.directories.any (place.isPrefixOf ·) ||
    tree.files.any fun (file, _) => place.isPrefixOf file && place != file

/-- The longest name of a file in bytes. -/
def maxNameSize : Nat := 255

/-- The size in bytes from which on a path is too long. -/
def maxPathSize : Nat := 4096

/-- The place that some steps lead to from another one. All but the last step must lead to a
directory. -/
def walk (tree : FileTree) (place : List String) : List String → Except FileProblem (List String)
  | [] => .ok place
  | step :: rest =>
    if step == ".." then walk tree place.dropLast rest
    else if maxNameSize < step.utf8ByteSize then .error .nameTooLong
    else if rest.isEmpty then .ok (place ++ [step])
    else if tree.isDirectory (place ++ [step]) then walk tree (place ++ [step]) rest
    else if tree.isFile (place ++ [step]) then .error .notDirectory
    else .error .missing

/-- The place that a path leads to. -/
def placeOf (tree : FileTree) (path : Path) : Except FileFault (List String) :=
  if path.text.toList.contains (Char.ofNat 0) then .error .invalidPath
  else if maxPathSize ≤ path.text.utf8ByteSize then .error (.refused .nameTooLong path.text)
  else match tree.walk (if path.isAbsolute then [] else tree.cwd) path.steps with
    | .ok place => .ok place
    | .error problem => .error (.refused problem path.text)

/-- Whether there is something at the end of a path. Paths that lead nowhere lead to nothing, but a
name that is too long is refused. -/
def contains (tree : FileTree) (path : Path) : Except FileFault Bool :=
  match tree.placeOf path with
  | .ok place => .ok (tree.isFile place || tree.isDirectory place)
  | .error (.refused .nameTooLong text) => .error (.refused .nameTooLong text)
  | .error _ => .ok false

/-! ## Reading -/

/-- The text that some bytes encode, with line feeds as its only line breaks. -/
def decode (bytes : ByteArray) : Except FileFault String :=
  match String.fromUTF8? bytes with
  | some text => .ok (String.ofList (Text.unifyBreaks text.toList))
  | none => .error (.undecodable (Utf8.complaint bytes.data.toList))

/-- The text of the file at the end of a path. -/
def read (tree : FileTree) (path : Path) : Except FileFault String := do
  let place ← tree.placeOf path
  match tree.bytes? place with
  | some bytes => decode bytes
  | none =>
    if tree.isDirectory place then .error (.refused .isDirectory path.text)
    else .error (.refused .missing path.text)

/-! ## Writing -/

/-- The files with new bytes at a place. -/
def setBytes (place : List String) (bytes : ByteArray) :
    List (List String × ByteArray) → List (List String × ByteArray)
  | [] => [(place, bytes)]
  | (file, old) :: rest =>
    if file == place then (file, bytes) :: rest else (file, old) :: setBytes place bytes rest

/-- The tree with a text in the file at the end of a path. -/
def write (tree : FileTree) (path : Path) (text : String) : Except FileFault FileTree := do
  let place ← tree.placeOf path
  if tree.isDirectory place then .error (.refused .isDirectory path.text)
  else if !tree.isDirectory place.dropLast then
    .error (.refused (if tree.isFile place.dropLast then .notDirectory else .missing) path.text)
  else .ok { tree with files := setBytes place text.toUTF8 tree.files }

/-- The tree with a directory at the end of some steps and with all directories on the way. -/
def makeSteps (tree : FileTree) (shown : String) (place : List String) :
    List String → Except FileFault FileTree
  | [] => .ok tree
  | step :: rest =>
    if tree.isFile (place ++ [step]) then
      .error (.refused (if rest.isEmpty then .exists else .notDirectory) shown)
    else if tree.isDirectory (place ++ [step]) then makeSteps tree shown (place ++ [step]) rest
    else if maxNameSize < step.utf8ByteSize then .error (.refused .nameTooLong shown)
    else makeSteps { tree with directories := tree.directories ++ [place ++ [step]] } shown
      (place ++ [step]) rest

/-- The tree with a directory at the end of a path that has no steps to the directory above. -/
def makeDirectory (tree : FileTree) (path : Path) : Except FileFault FileTree :=
  if path.text.toList.contains (Char.ofNat 0) then .error .invalidPath
  else tree.makeSteps path.text [] path.steps

/-! ## Changes -/

/-- The files of a tree that another one does not have, or not with the same bytes. -/
def changes (before after : FileTree) : List (List String × ByteArray) :=
  after.files.filter fun (place, bytes) => before.bytes? place != some bytes

/-- The places on the way along some steps. -/
def placesAlong (steps : List String) : List (List String) :=
  (List.range steps.length).map fun count => Path.flattenFrom [] (steps.take count)

/-- The tree with a file that was found at the end of a path, or with a directory if there are no
bytes, and with the directories on the way to it. -/
def record (tree : FileTree) (path : Path) (bytes : Option ByteArray) : FileTree :=
  let steps := (Path.join { root := "/", steps := tree.cwd } path).steps
  let place := Path.flattenFrom [] steps
  let directories := tree.directories ++ placesAlong steps
  match bytes with
  | some bytes => { tree with directories, files := setBytes place bytes tree.files }
  | none => { tree with directories := directories ++ [place] }

end FileTree

end Ambient
