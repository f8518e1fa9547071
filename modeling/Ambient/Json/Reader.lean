/-
  Ambient.Json.Reader

  Reading JSON documents. A number without fraction and exponent is an integer, three words for
  numbers that are not finite are accepted, and a key given twice keeps its first place and its last
  value. A document that cannot be read is refused with the problem and its place.
-/
import Ambient.Json.Basic
import Ambient.Text.Digits
import Ambient.Text.Integer
import Ambient.Text.Split

namespace Ambient.Json

/-! ## Faults -/

/-- What is wrong at a place of a document. -/
inductive Problem where
  | expectingValue
  | expectingKey
  | expectingColon
  | expectingComma
  | unterminatedString
  | controlCharacter
  | invalidEscape
  | invalidUnit
  | extraData
  | byteOrderMark
  deriving DecidableEq, Repr

/-- The words for a problem. -/
def Problem.message : Problem → String
  | .expectingValue => "Expecting value"
  | .expectingKey => "Expecting property name enclosed in double quotes"
  | .expectingColon => "Expecting ':' delimiter"
  | .expectingComma => "Expecting ',' delimiter"
  | .unterminatedString => "Unterminated string starting at"
  | .controlCharacter => "Invalid control character at"
  | .invalidEscape => "Invalid \\escape"
  | .invalidUnit => "Invalid \\uXXXX escape"
  | .extraData => "Extra data"
  | .byteOrderMark => "Unexpected UTF-8 BOM (decode using utf-8-sig)"

/-- A problem and the number of characters from its place to the end of the document. -/
inductive Stop where
  | here (problem : Problem) (remaining : Nat)
  | tooManyDigits (count : Nat)
  deriving DecidableEq, Repr

/-- Why a document could not be read: a problem at a place, or an integer that is too long. -/
inductive ReadFault where
  | malformed (problem : Problem) (line column position : Nat)
  | tooManyDigits (count : Nat)
  deriving DecidableEq, Repr

/-- The words for a document that could not be read. -/
def ReadFault.message : ReadFault → String
  | .malformed problem line column position =>
    problem.message ++ ": line " ++ toString line ++ " column " ++ toString column ++
      " (char " ++ toString position ++ ")"
  | .tooManyDigits count =>
    "Exceeds the limit (" ++ toString Text.maxDigits ++
      " digits) for integer string conversion: value has " ++ toString count ++
      " digits; use sys.set_int_max_str_digits() to increase the limit"

/-- The place of a stop in a document: line and column count from one, the position from zero. -/
def Stop.locate (document : List Char) : Stop → ReadFault
  | .tooManyDigits count => .tooManyDigits count
  | .here problem remaining =>
    let before := document.take (document.length - remaining)
    let lastLine := before.reverse.takeWhile (· != '\n')
    .malformed problem (before.count '\n' + 1) (lastLine.length + 1) before.length

/-! ## Strings -/

/-- A blank between the tokens of a document. -/
def isSpace (c : Char) : Bool :=
  c == ' ' || c == '\t' || c == '\n' || c == '\r'

/-- The text after the blanks at its start. -/
def skipSpace (text : List Char) : List Char :=
  text.dropWhile isSpace

/-- The number that four hexadecimal digits denote. -/
def unitValue? (a b c d : Char) : Option Nat := do
  let a ← Text.hexValue? a
  let b ← Text.hexValue? b
  let c ← Text.hexValue? c
  let d ← Text.hexValue? d
  some (((a * 16 + b) * 16 + c) * 16 + d)

/-- The first half of a pair of units that stands for one character. -/
def isHighUnit (n : Nat) : Bool := 0xD800 ≤ n && n < 0xDC00

/-- The second half of a pair of units. -/
def isLowUnit (n : Nat) : Bool := 0xDC00 ≤ n && n < 0xE000

/-- The character of a unit. Texts are made of characters, so an escape for half of a pair on its own
stands for none: it is read as the replacement character, and what is said of documents is said of
those without such escapes. -/
def unitChar (n : Nat) : Char :=
  if isHighUnit n || isLowUnit n then Char.ofNat 0xFFFD else Char.ofNat n

/-- The character that an escape with one letter stands for. -/
def simpleEscape? (c : Char) : Option Char :=
  if c == '"' || c == '\\' || c == '/' then some c
  else if c == 'b' then some (Char.ofNat 8)
  else if c == 'f' then some (Char.ofNat 12)
  else if c == 'n' then some '\n'
  else if c == 'r' then some '\r'
  else if c == 't' then some '\t'
  else none

/-- The character of an escape `u` with the text after the letter. A first half takes the second
half with it if that follows; the last escape of a document needs a character after it. -/
def readUnit (text : List Char) : Except Stop (Char × List Char) :=
  match text with
  | a :: b :: c :: d :: rest =>
    if rest.isEmpty then .error (.here .invalidUnit (text.length + 1))
    else match unitValue? a b c d with
      | none => .error (.here .invalidUnit (text.length + 1))
      | some high =>
        if isHighUnit high then
          match rest with
          | '\\' :: 'u' :: e :: f :: g :: h :: after =>
            if after.isEmpty then .ok (unitChar high, rest)
            else match unitValue? e f g h with
              | none => .error (.here .invalidUnit (rest.length - 1))
              | some low =>
                if isLowUnit low then
                  .ok (Char.ofNat (0x10000 + (high - 0xD800) * 0x400 + (low - 0xDC00)), after)
                else .ok (unitChar high, rest)
          | _ => .ok (unitChar high, rest)
        else .ok (unitChar high, rest)
  | _ => .error (.here .invalidUnit (text.length + 1))

/-- The characters of a string up to its closing quote, with the text after it. `opening` is the
number of characters from the opening quote to the end; `fuel` bounds the number of characters. -/
def readString (opening : Nat) : Nat → List Char → Except Stop (List Char × List Char)
  | 0, _ => .error (.here .unterminatedString opening)
  | _ + 1, [] => .error (.here .unterminatedString opening)
  | fuel + 1, c :: rest =>
    if c == '"' then .ok ([], rest)
    else if c == '\\' then
      match rest with
      | [] => .error (.here .unterminatedString opening)
      | 'u' :: after => do
        let (char, after) ← readUnit after
        let (chars, after) ← readString opening fuel after
        .ok (char :: chars, after)
      | letter :: after =>
        match simpleEscape? letter with
        | none => .error (.here .invalidEscape (rest.length + 1))
        | some char => do
          let (chars, after) ← readString opening fuel after
          .ok (char :: chars, after)
    else if c.toNat < 32 then .error (.here .controlCharacter (rest.length + 1))
    else do
      let (chars, after) ← readString opening fuel rest
      .ok (c :: chars, after)

/-! ## Numbers -/

/-- The fraction after an integer: a point with at least one digit. -/
def readFraction (text : List Char) : Option (List Char × List Char) :=
  match text with
  | '.' :: rest =>
    let digits := rest.takeWhile Text.isAsciiDigit
    if digits.isEmpty then none else some (digits, rest.dropWhile Text.isAsciiDigit)
  | _ => none

/-- The exponent of a number: its letter, an optional sign and at least one digit. -/
def readExponent (text : List Char) : Option (Int × List Char) :=
  match text with
  | c :: rest =>
    if c == 'e' || c == 'E' then
      let (negative, rest) := match rest with
        | '-' :: rest => (true, rest)
        | '+' :: rest => (false, rest)
        | rest => (false, rest)
      let digits := rest.takeWhile Text.isAsciiDigit
      if digits.isEmpty then none
      else
        let n : Int := Text.digitsValue digits
        some (if negative then -n else n, rest.dropWhile Text.isAsciiDigit)
    else none
  | [] => none

/-- The digits before the point: a zero alone, or digits of which the first is not zero. -/
def readWhole (text : List Char) : Option (List Char × List Char) :=
  match text with
  | '0' :: rest => some (['0'], rest)
  | c :: _ =>
    if Text.isAsciiDigit c then
      some (text.takeWhile Text.isAsciiDigit, text.dropWhile Text.isAsciiDigit)
    else none
  | [] => none

/-- A number after its sign; `remaining` counts from the sign or the first digit to the end. -/
def readNumber (negative : Bool) (remaining : Nat) (text : List Char) :
    Except Stop (Json × List Char) :=
  match readWhole text with
  | none => .error (.here .expectingValue remaining)
  | some (whole, rest) =>
    let fraction := readFraction rest
    let (places, rest) := fraction.getD ([], rest)
    let exponent := readExponent rest
    let (shift, rest) := exponent.getD (0, rest)
    if fraction.isNone && exponent.isNone then
      if Text.maxDigits < whole.length then .error (.tooManyDigits whole.length)
      else
        let n : Int := Text.digitsValue whole
        .ok (.int (if negative then -n else n), rest)
    else
      .ok (.float (Double.ofDecimal negative (Text.digitsValue (whole ++ places))
        (shift - Int.ofNat places.length)), rest)

/-! ## Values -/

/-- The words that stand for values. -/
def words : List (List Char × Json) :=
  [("null".toList, .null), ("true".toList, .bool true), ("false".toList, .bool false),
   ("NaN".toList, .float .nan), ("Infinity".toList, .float (.infinity false)),
   ("-Infinity".toList, .float (.infinity true))]

/-- A word or a number. -/
def readScalar (text : List Char) : Except Stop (Json × List Char) :=
  match words.findSome? fun (word, value) => (Text.afterPrefix? word text).map (value, ·) with
  | some result => .ok result
  | none =>
    match text with
    | '-' :: rest => readNumber true text.length rest
    | _ => readNumber false text.length text

/-- The fields with a field set: a key that is there keeps its place and takes the value. -/
def setField (key : String) (value : Json) : List (String × Json) → List (String × Json)
  | [] => [(key, value)]
  | (k, v) :: rest => if k == key then (k, value) :: rest else (k, v) :: setField key value rest

/-- Fields in document order, each key in its first place with its last value. -/
def mergeFields (fields : List (String × Json)) : List (String × Json) :=
  fields.foldl (fun merged (key, value) => setField key value merged) []

mutual

/-- A value at the start of a text, with what follows it. -/
def readValue : Nat → List Char → Except Stop (Json × List Char)
  | 0, text => .error (.here .expectingValue text.length)
  | fuel + 1, text =>
    match text with
    | '"' :: rest => do
      let (chars, rest) ← readString text.length (text.length + 1) rest
      .ok (.str (String.ofList chars), rest)
    | '[' :: rest =>
      match skipSpace rest with
      | ']' :: rest => .ok (.arr [], rest)
      | rest => do
        let (items, rest) ← readItems fuel rest
        .ok (.arr items, rest)
    | '\x7b' :: rest =>
      match skipSpace rest with
      | '\x7d' :: rest => .ok (.obj [], rest)
      | rest => do
        let (fields, rest) ← readFields fuel rest
        .ok (.obj (mergeFields fields), rest)
    | _ => readScalar text

/-- The items of a list up to its closing bracket. -/
def readItems : Nat → List Char → Except Stop (List Json × List Char)
  | 0, text => .error (.here .expectingValue text.length)
  | fuel + 1, text => do
    let (value, rest) ← readValue fuel text
    match skipSpace rest with
    | ']' :: rest => .ok ([value], rest)
    | ',' :: rest => do
      let (items, rest) ← readItems fuel (skipSpace rest)
      .ok (value :: items, rest)
    | rest => .error (.here .expectingComma rest.length)

/-- The fields of an object up to its closing brace. -/
def readFields : Nat → List Char → Except Stop (List (String × Json) × List Char)
  | 0, text => .error (.here .expectingKey text.length)
  | fuel + 1, text =>
    match text with
    | '"' :: rest => do
      let (key, rest) ← readString text.length (text.length + 1) rest
      match skipSpace rest with
      | ':' :: rest => do
        let (value, rest) ← readValue fuel (skipSpace rest)
        match skipSpace rest with
        | '\x7d' :: rest => .ok ([(String.ofList key, value)], rest)
        | ',' :: rest => do
          let (fields, rest) ← readFields fuel (skipSpace rest)
          .ok ((String.ofList key, value) :: fields, rest)
        | rest => .error (.here .expectingComma rest.length)
      | rest => .error (.here .expectingColon rest.length)
    | _ => .error (.here .expectingKey text.length)

end

/-- The value of a document, which may have blanks around it and nothing else. -/
def readDocument (text : List Char) : Except Stop Json :=
  if text.head? == some (Char.ofNat 0xFEFF) then .error (.here .byteOrderMark text.length)
  else do
    let (value, rest) ← readValue (2 * text.length + 2) (skipSpace text)
    match skipSpace rest with
    | [] => .ok value
    | rest => .error (.here .extraData rest.length)

/-- The value of a document, or what is wrong with it and where. -/
def parse (document : String) : Except ReadFault Json :=
  match readDocument document.toList with
  | .ok value => .ok value
  | .error stop => .error (stop.locate document.toList)

end Ambient.Json
