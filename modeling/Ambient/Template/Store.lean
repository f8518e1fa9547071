/-
  Ambient.Template.Store

  Templates by name. Those in the files of a template directory come before those that are added by
  hand, and adding a template again replaces it.
-/
import Ambient.Source.FileTree
import Ambient.Template.Basic

namespace Ambient.Template

/-- Templates in files, by their paths in the template directory, and templates added by hand. -/
structure Store where
  files : List (String × ByteArray) := []
  added : List (String × String) := []

/-- The path in the template directory that a name stands for. Names with a step to the directory
above stand for none. -/
def filePath? (name : String) : Option String :=
  let steps := (Text.splitOn '/' name.toList).map String.ofList
  if steps.contains ".." then none
  else some (String.joinWith "/" (steps.filter fun step => step != "" && step != "."))

namespace Store

/-- The text of the template with a name, if there is one; the bytes of a file must encode a text. -/
def text? (store : Store) (name : String) : Except FileFault (Option String) :=
  match (filePath? name).bind fun path => store.files.lookup path with
  | some bytes => some <$> FileTree.decode bytes
  | none => .ok (store.added.lookup name)

/-- Whether there is a template with a name; it must be readable. -/
def contains (store : Store) (name : String) : Except Fault Bool :=
  match store.text? name with
  | .error fault => .error (.file fault)
  | .ok none => .ok false
  | .ok (some text) =>
    match ofText text with
    | .ok _ => .ok true
    | .error fault => .error (.escape fault)

/-- The store with a template added by hand. -/
def add (store : Store) (name text : String) : Store :=
  { store with added := (name, text) :: store.added }

/-- What a context must not hold, in the words of a rendering that refuses it. -/
def selfComplaint : String := "Template.render() got multiple values for argument 'self'"

/-- The context for a rendering of the template with a name, if it can be used. -/
def contextFor (name : String) (context : List (String × Json)) :
    Except Fault (List (String × Json)) :=
  if (Json.field? selfName context).isSome then .error (.template name selfComplaint)
  else .ok (withSelf name context)

/-- The text that the template with a name makes of a context. Whatever goes wrong is the fault of a
template. -/
def render (store : Store) (name : String) (context : List (String × Json)) :
    Except Fault String :=
  match store.text? name with
  | .error fault => .error (.template name fault.message)
  | .ok none => .error (.template name name)
  | .ok (some text) => do
    let template ← (ofText text).mapError fun fault => .template name fault.message
    let context ← contextFor name context
    (template.render context).mapError fun fault => .template name fault.message

/-- The text that the template with a name makes of a context, or another text where there is no such
template. -/
def renderOr (store : Store) (name : String) (context : List (String × Json))
    (standard : Except Fault String) : Except Fault String := do
  if ← store.contains name then store.render name context else standard

/-- A store without templates leaves everything to the other text. -/
theorem renderOr_empty (name : String) (context : List (String × Json))
    (standard : Except Fault String) : renderOr {} name context standard = standard := by
  have h : contains {} name = .ok false := by
    cases hpath : filePath? name <;> simp [contains, text?, hpath]
  simp [renderOr, h, bind, Except.bind]

end Store

end Ambient.Template
