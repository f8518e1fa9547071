/-
  Ambient.Template.Slot

  Slots of templates. A slot shows a value, written out or called by its name, and may ask for margins
  before its lines, one after the other: `name | indent`, `name | indent(2)`, `name | indent("--")`. A
  slot ends with two closing braces that stand outside of quotes. This is the part of a template
  language from outside that slots are written in (`Ambient.Template.Basic`).
-/
import Ambient.Json.Text
import Ambient.Text.Escape

namespace Ambient.Template

/-! ## Tokens -/

/-- Where a value comes from: it is written out, or it has a name. -/
inductive Source where
  | constant (value : Json)
  | name (name : String)
  deriving Repr

/-- The words that stand for values whatever the context says. -/
def constantWords : List (String × Json) :=
  [("true", .bool true), ("True", .bool true), ("false", .bool false), ("False", .bool false),
   ("none", .null), ("None", .null)]

/-- The source that a word stands for. -/
def Source.ofWord (word : String) : Source :=
  match constantWords.lookup word with
  | some value => .constant value
  | none => .name word

/-- A piece of the text of a slot. -/
inductive Token where
  | source (source : Source)
  | mark (c : Char)
  /-- A quoted text with an escape that cannot be read. -/
  | broken (fault : Text.EscapeFault)
  deriving Repr

/-- The fault of a token. -/
def Token.fault? : Token → Option Text.EscapeFault
  | .broken fault => some fault
  | _ => none

/-- The marks that a slot may hold. -/
def isMark (c : Char) : Bool :=
  ['|', '(', ')', '=', '-', '+'].contains c

/-! ## Numbers -/

/-- The letters that, after a zero, tell the base of an integer. -/
def baseOf? (c : Char) : Option Nat :=
  if c == 'x' || c == 'X' then some 16
  else if c == 'o' || c == 'O' then some 8
  else if c == 'b' || c == 'B' then some 2
  else none

/-- An integer with a letter for its base at the start of a text, and its length. -/
def basedInteger? (text : List Char) : Option (Json × Nat) :=
  match text with
  | '0' :: letter :: rest => do
    let base ← baseOf? letter
    let digits := Text.digitRun base rest
    if digits.isEmpty then none
    else some (.int (Text.valueIn base digits), digits.length + 2)
  | _ => none

/-- The run of digits after a point, if the text starts with a point and a digit. -/
def placesOf (text : List Char) : List Char :=
  match text with
  | '.' :: c :: rest => if Text.isAsciiDigit c then Text.digitRun 10 (c :: rest) else []
  | _ => []

/-- The exponent at the start of a text, and its length. -/
def exponentOf? (text : List Char) : Option (Int × Nat) :=
  match text with
  | letter :: rest =>
    if letter == 'e' || letter == 'E' then
      let sign := rest.head?.filter fun c => c == '-' || c == '+'
      let digits := Text.digitRun 10 (rest.drop sign.toList.length)
      if (digits.head?.map Text.isAsciiDigit).getD false then
        let n : Int := Text.valueIn 10 digits
        some (if sign == some '-' then -n else n, digits.length + sign.toList.length + 1)
      else none
    else none
  | [] => none

/-- A decimal number at the start of a text, and its length. It is an integer unless it has a point
or an exponent; an integer begins with a zero only if it is zero. -/
def decimal? (text : List Char) : Option (Json × Nat) :=
  let whole := Text.digitRun 10 text
  let places := placesOf (text.drop whole.length)
  let fraction := if places.isEmpty then 0 else places.length + 1
  match places, exponentOf? (text.drop (whole.length + fraction)) with
  | [], none =>
    if whole.head? == some '0' && whole.any (fun c => c != '0' && c != '_') then none
    else some (.int (Text.valueIn 10 whole), whole.length)
  | places, exponent =>
    let (shift, length) := exponent.getD (0, 0)
    let digits := whole ++ places
    let count := (places.filter Text.isAsciiDigit).length
    some (.float (Double.ofDecimal false (Text.valueIn 10 digits) (shift - count)),
      whole.length + fraction + length)

/-! ## Reading tokens -/

/-- The characters of a quoted text up to its closing quote. -/
def quotedPart? (quote : Char) : List Char → Option (List Char)
  | [] => none
  | '\\' :: c :: rest => (quotedPart? quote rest).map ('\\' :: c :: ·)
  | c :: rest => if c == quote then some [] else (quotedPart? quote rest).map (c :: ·)

/-- The token at the start of a text, and the number of its characters after the first. -/
def token? (first : Char) (rest : List Char) : Option (Token × Nat) :=
  if first == '\'' || first == '"' then do
    let part ← quotedPart? first rest
    let token := match Text.unescaped (Text.asciiEscaped part) with
      | .ok text => .source (.constant (.str (String.ofList text)))
      | .error fault => .broken fault
    some (token, part.length + 1)
  else if Text.isAsciiDigit first then do
    let (value, length) ← (basedInteger? (first :: rest)).or (decimal? (first :: rest))
    some (.source (.constant value), length - 1)
  else if Text.isWordChar first then
    let more := rest.takeWhile Text.isWordChar
    some (.source (.ofWord (String.ofList (first :: more))), more.length)
  else if isMark first then some (.mark first, 0)
  else none

/-- The tokens up to two closing braces, and the text after them. -/
def tokens? (text : List Char) : Option (List Token × List Char) :=
  match text with
  | [] => none
  | c :: rest =>
    if c == '\x7d' && rest.head? == some '\x7d' then some ([], rest.drop 1)
    else if Text.isBlank c then tokens? rest
    else
      match token? c rest with
      | none => none
      | some (token, more) =>
        (tokens? (rest.drop more)).map fun (tokens, after) => (token :: tokens, after)
termination_by text.length
decreasing_by all_goals (simp only [List.length_cons, List.length_drop]; omega)

/-- The text after a slot is shorter than the text from its start. -/
theorem length_after_tokens {text after : List Char} {tokens : List Token}
    (h : tokens? text = some (tokens, after)) : after.length < text.length := by
  fun_induction tokens? text generalizing tokens with
  | case1 => simp at h
  | case2 c rest hend =>
    simp only [Option.some.injEq, Prod.mk.injEq] at h
    simp only [← h.2, List.length_drop, List.length_cons]
    omega
  | case3 c rest hend hblank ih =>
    have := ih h
    simp only [List.length_cons]
    omega
  | case4 => simp at h
  | case5 c rest hend hblank token more htoken ih =>
    obtain ⟨⟨others, last⟩, hothers, heq⟩ := Option.map_eq_some_iff.1 h
    simp only [Prod.mk.injEq] at heq
    have := ih (heq.2 ▸ hothers)
    simp only [List.length_drop, List.length_cons] at *
    omega

/-! ## Slots -/

/-- The value with a sign in front of it, if it is a number. -/
def signed? (sign : Char) (value : Json) : Option Json :=
  match value with
  | .int n => some (.int (if sign == '-' then -n else n))
  | .float x => some (.float (if sign == '-' then x.negated else x))
  | _ => none

/-- The tokens with signs put to the numbers after them and with texts in a row joined. -/
def joined : List Token → List Token
  | [] => []
  | .source (.constant (.str first)) :: rest =>
    match joined rest with
    | .source (.constant (.str second)) :: more => .source (.constant (.str (first ++ second))) :: more
    | others => .source (.constant (.str first)) :: others
  | .mark sign :: rest =>
    if sign == '-' || sign == '+' then
      match joined rest with
      | .source (.constant value) :: more =>
        match signed? sign value with
        | some value => .source (.constant value) :: more
        | none => .mark sign :: .source (.constant value) :: more
      | others => .mark sign :: others
    else .mark sign :: joined rest
  | token :: rest => token :: joined rest

/-- What a slot shows, and the widths of the margins that it asks for. -/
structure Slot where
  source : Source
  margins : List Source := []
  deriving Repr

/-- The width of a margin that is not told. -/
def defaultWidth : Source := .constant (.int 4)

/-- The widths of the margins that some tokens ask for. -/
def margins? : List Token → Option (List Source)
  | [] => some []
  | .mark '|' :: .source (.name "indent") :: .mark '(' :: .mark ')' :: rest =>
    (margins? rest).map (defaultWidth :: ·)
  | .mark '|' :: .source (.name "indent") :: .mark '(' :: .source width :: .mark ')' :: rest =>
    (margins? rest).map (width :: ·)
  | .mark '|' :: .source (.name "indent") :: .mark '(' :: .source (.name "width") :: .mark '=' ::
      .source width :: .mark ')' :: rest =>
    (margins? rest).map (width :: ·)
  | .mark '|' :: .source (.name "indent") :: rest => (margins? rest).map (defaultWidth :: ·)
  | _ => none

/-- The slot that some tokens describe. -/
def slot? (tokens : List Token) : Option Slot :=
  match joined tokens with
  | .source source :: rest => (margins? rest).map fun margins => { source, margins }
  | _ => none

end Ambient.Template
