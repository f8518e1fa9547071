/-
  Ambient.Console.Markup

  Text with styles in square brackets: `[name]` opens a style and `[/name]` or `[/]` closes it, and
  `[name=parameters]` opens one with parameters. A backslash before a bracket takes its meaning away.
  Only the plain text is shown, without characters that would move the cursor; a style that is closed
  without being open is a fault, and so are the parameters of a handler, a style whose name starts
  with an at sign, if they are no literal. These are rules of the renderer from outside
  (`Ambient.Console`).
-/
import Ambient.Console.Literal
import Ambient.Console.Pictograph
import Ambient.Console.Style

namespace Ambient.Console

/-! ## Parts -/

/-- A part of a text with styles. -/
inductive Part where
  | plain (text : List Char)
  | opening (name : List Char) (parameters : Option (List Char))
  /-- The name of the style to close, and all that stands in the brackets. -/
  | closing (name : List Char) (tag : List Char)
  deriving DecidableEq, Repr

/-- A character that can begin what stands in brackets. -/
def isTagStart (c : Char) : Bool :=
  Text.isAsciiLower c || c == '#' || c == '/' || c == '@'

/-- What stands in brackets up to the closing one, with the text after it; there is no opening
bracket between them. -/
def tagBody? : List Char → Option (List Char × List Char)
  | [] => none
  | c :: rest =>
    if c == ']' then some ([], rest)
    else if c == '[' then none
    else (tagBody? rest).map fun (body, after) => (c :: body, after)

/-- What stands in brackets after the opening one. -/
def tag? (text : List Char) : Option (List Char × List Char) :=
  match text with
  | c :: rest =>
    if isTagStart c then (tagBody? rest).map fun (body, after) => (c :: body, after) else none
  | [] => none

/-- The part that some text in brackets stands for; parameters follow an equals sign. -/
def partOf (body : List Char) : Part :=
  match body.takeWhile (· != '=') with
  | '/' :: name => .closing (Text.trim name) body
  | name => .opening name ((body.drop name.length).tail?)

/-- A text without the backslashes that stand before brackets. -/
def unescape : List Char → List Char
  | [] => []
  | '\\' :: '[' :: rest => '[' :: unescape rest
  | c :: rest => c :: unescape rest

/-- The parts of a text. `pending` holds plain characters in reverse, and `slashes` counts the
backslashes just before the text; `fuel` bounds the number of characters. -/
def partsFrom : Nat → List Char → Nat → List Char → List Part
  | 0, pending, slashes, text =>
    [.plain (pending.reverse ++ List.replicate slashes '\\' ++ text)]
  | _ + 1, pending, slashes, [] => [.plain (pending.reverse ++ List.replicate slashes '\\')]
  | fuel + 1, pending, slashes, c :: rest =>
    if c == '\\' then partsFrom fuel pending (slashes + 1) rest
    else
      match if c == '[' then tag? rest else none with
      | some (body, after) =>
        let before := [Part.plain pending.reverse, .plain (List.replicate (slashes / 2) '\\')]
        if slashes % 2 == 1 then
          before ++ .plain ('[' :: body ++ [']']) :: partsFrom fuel [] 0 after
        else before ++ partOf body :: partsFrom fuel [] 0 after
      | none => partsFrom fuel (c :: (List.replicate slashes '\\' ++ pending)) 0 rest

/-- The parts of a text. -/
def parts (text : List Char) : List Part :=
  partsFrom (text.length + 1) [] 0 text

/-! ## Styles -/

/-- A style with the parameters that it was opened with and the number of shown characters before it. -/
structure OpenStyle where
  name : List Char
  parameters : Option (List Char)
  start : Nat
  deriving DecidableEq, Repr

namespace OpenStyle

/-- Whether a style is a handler. -/
def isHandler (style : OpenStyle) : Bool :=
  style.name.head? == some '@'

/-- What must be a literal of the parameters of a handler: the parentheses after a name, which may be
left out, or all of them where they have no such form. -/
def handlerLiteral (parameters : List Char) : List Char :=
  let text := Text.trim parameters
  match text.dropWhile fun c => Text.isWordChar c || c == '.' with
  | [] => "()".toList
  | c :: rest =>
    if c == '(' && rest.getLast? == some ')' && !rest.contains '\n' then c :: rest else text

/-- The fault of a style whose parameters cannot be used, if it is closed. -/
def checkParameters (style : OpenStyle) : Except Fault Unit :=
  match style.parameters with
  | none => .ok ()
  | some parameters =>
    if !style.isHandler || parameters.isEmpty || isLiteral (handlerLiteral parameters) then .ok ()
    else .error (.badHandler (String.ofList parameters))

/-- The name of a style with its parameters after it, as a name of a style. -/
def fullName (style : OpenStyle) : List Char :=
  match style.parameters with
  | none => style.name
  | some parameters => style.name ++ ' ' :: parameters

end OpenStyle

/-- The innermost open style of a name, and the other ones, if there is one. Without a name it is the
innermost of all. -/
def close? (name : List Char) : List OpenStyle → Option (OpenStyle × List OpenStyle)
  | [] => none
  | style :: outer =>
    if name.isEmpty || style.name == name then some (style, outer)
    else (close? name outer).map fun (found, others) => (found, style :: others)

/-! ## Plain text -/

/-- A character that would move the cursor; it is not shown. -/
def movesCursor (c : Char) : Bool :=
  [7, 8, 11, 12, 13].contains c.toNat

/-- A plain part as it is shown. -/
def shownPart (text : List Char) : List Char :=
  (drawPictographs (unescape text)).filter (!movesCursor ·)

/-- A style with the number of shown characters before its end. -/
structure StyledSpan where
  style : OpenStyle
  stop : Nat
  deriving DecidableEq, Repr

/-- The plain text of some parts with the spans of the styles. `shown` counts the characters before
them, and `opened` holds the open styles, the innermost first; one that is never closed goes on to
the end. Every style that is closed must be open. -/
def plainText (shown : Nat) (opened : List OpenStyle) :
    List Part → Except Fault (List Char × List StyledSpan)
  | [] => .ok ([], opened.map fun style => { style, stop := shown })
  | .plain text :: rest => do
    let part := shownPart text
    let (after, spans) ← plainText (shown + part.length) opened rest
    .ok (part ++ after, spans)
  | .opening name parameters :: rest => do
    let style := { name := ← normalName name, parameters, start := shown : OpenStyle }
    plainText shown (style :: opened) rest
  | .closing name tag :: rest => do
    let name ← if name.isEmpty then .ok [] else normalName name
    match close? name opened with
    | some (style, others) => do
      style.checkParameters
      let (after, spans) ← plainText shown others rest
      .ok (after, { style, stop := shown } :: spans)
    | none => .error (.unbalancedStyle (String.ofList tag))

/-- Whether a style is met when a text is laid out. A text with line breaks or tabs is laid out piece
by piece, and there a style over no character of a line is lost. -/
def StyledSpan.isMet (text : List Char) (span : StyledSpan) : Bool :=
  !(text.contains '\n' || text.contains '\t') ||
    ((text.take span.stop).drop span.style.start).any (· != '\n')

/-- What the console shows of a text with styles, tabs still in it. The full names of the styles that
are met are read at last. -/
def plain (markup : List Char) : Except Fault (List Char) := do
  let (text, spans) ← plainText 0 [] (parts markup)
  let met := spans.filter fun span => span.isMet text && !span.style.isHandler
  let _ ← met.mapM fun span => Style.ofName? span.style.fullName
  .ok text

end Ambient.Console
