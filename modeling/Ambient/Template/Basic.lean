/-
  Ambient.Template.Basic

  Templates: texts with slots between double braces for the values of a context. Line breaks of all
  kinds become line feeds, and one at the end of a template is dropped. A quoted text with an escape
  that cannot be read spoils the template. Some names have a value without any context, which a
  context may replace.

  Templates stand for a template language that comes from outside, cut down to texts with slots:
  statements and comments of that language are literal text here. The four standard forms of
  declarations are no templates of this kind but definitions (`Declaration.text`, `Block.text`). The
  main statements are about generators without other templates, or hold whatever those make of a
  declaration.
-/
import Ambient.Config.Basic
import Ambient.Template.Slot
import Ambient.Text.Breaks
import Ambient.Text.Margin

namespace Ambient

/-! ## Margins -/

/-- The margin that a width gives: so many spaces for an integer, and its text for anything else. -/
def marginOf (width : Json) : Except Fault String :=
  match width.asInt? with
  | some n => Config.spaces n
  | none => .ok width.text

/-! ## Templates -/

/-- A part of a template. -/
inductive Piece where
  | literal (text : String)
  | slot (slot : Template.Slot)
  deriving Repr

/-- A template as the parts that it is made of. -/
abbrev Template := List Piece

namespace Template

/-- The text without one line feed at its end. -/
def dropLastBreak : List Char → List Char
  | [] => []
  | ['\n'] => []
  | c :: rest => c :: dropLastBreak rest

/-- The parts of a text whose line breaks are line feeds. -/
def pieces (text : List Char) : Except Text.EscapeFault Template :=
  match text with
  | [] => .ok []
  | '\x7b' :: '\x7b' :: rest =>
    match htokens : tokens? rest with
    | some (tokens, after) =>
      have := length_after_tokens htokens
      match tokens.findSome? Token.fault?, slot? tokens with
      | some fault, _ => .error fault
      | none, some slot => (pieces after).map (.slot slot :: ·)
      | none, none => (pieces ('\x7b' :: rest)).map (.literal "\x7b" :: ·)
    | none => (pieces ('\x7b' :: rest)).map (.literal "\x7b" :: ·)
  | c :: rest => (pieces rest).map (.literal c.toString :: ·)
termination_by text.length

/-- The template that a text describes. -/
def ofText (text : String) : Except Text.EscapeFault Template :=
  pieces (dropLastBreak (Text.unifyBreaks text.toList))

/-! ## Values of names -/

/-- What the names stand for that have a value without any context. -/
def standingNames : List (String × String) :=
  [("range", "<class 'range'>"), ("dict", "<class 'dict'>"),
   ("cycler", "<class 'jinja2.utils.Cycler'>"), ("joiner", "<class 'jinja2.utils.Joiner'>"),
   ("namespace", "<class 'jinja2.utils.Namespace'>")]

/-- The name that stands for the template itself; no context can give it another value. -/
def selfName : String := "self"

/-- The context of a rendering with what stands for the template of a name. -/
def withSelf (name : String) (context : List (String × Json)) : List (String × Json) :=
  (selfName, .str ("<TemplateReference " ++ name.inQuotes ++ ">")) :: context

/-- The value of a source in a context; a name without a value stands for an empty text. -/
def Source.value (context : List (String × Json)) : Source → Json
  | .constant value => value
  | .name word =>
    (Json.field? word context).getD (.str ((standingNames.lookup word).getD ""))

/-! ## Rendering -/

/-- A text with margins of some widths before its lines, one after the other. -/
def withMargins (context : List (String × Json)) (text : String) : List Source → Except Fault String
  | [] => .ok text
  | width :: rest => do
    let margin ← marginOf (width.value context)
    withMargins context (text.indentedBy margin) rest

/-- The text of a part of a template. -/
def pieceText (context : List (String × Json)) : Piece → Except Fault String
  | .literal text => .ok text
  | .slot slot => withMargins context (slot.source.value context).text slot.margins

/-- The text of a template with the values of a context in its slots. -/
def render (template : Template) (context : List (String × Json)) : Except Fault String := do
  .ok (String.join (← template.mapM (pieceText context)))

end Template

end Ambient
