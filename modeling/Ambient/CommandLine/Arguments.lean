/-
  Ambient.CommandLine.Arguments

  Reading the words of a command line. Options may be shortened as long as one name fits, short
  flags may be run together, a value may follow its option or be attached to it, and nothing after a
  double dash is an option. Options take effect in order, so that a request for the version is
  answered before later words are looked at.
-/
import Ambient.Config.File

namespace Ambient.CommandLine

/-! ## Options -/

/-- Options without a value. -/
inductive Flag where
  | help | version | stdout | verbose | quiet
  deriving DecidableEq, Repr

/-- Options with a value. -/
inductive Setting where
  | baseDirectory | outputNamespace | enumStyle
  deriving DecidableEq, Repr

/-- An option with or without a value. -/
inductive Choice where
  | flag (flag : Flag)
  | setting (setting : Setting)
  deriving DecidableEq, Repr

/-- All options by their names. -/
def names : List (String × Choice) :=
  [("-h", .flag .help), ("--help", .flag .help),
   ("--base-directory", .setting .baseDirectory), ("-b", .setting .baseDirectory),
   ("--output-namespace", .setting .outputNamespace), ("--enum-style", .setting .enumStyle),
   ("--stdout", .flag .stdout), ("--verbose", .flag .verbose), ("-v", .flag .verbose),
   ("--quiet", .flag .quiet), ("-q", .flag .quiet), ("--version", .flag .version)]

/-- The option with a one-letter name. -/
def short? (letter : Char) : Option Choice :=
  names.lookup (String.ofList ['-', letter])

/-! ## Words -/

/-- What a word of a command line is. -/
inductive Word where
  | argument (text : String)
  | separator
  /-- An option without an attached value. -/
  | option (choice : Choice)
  /-- A long option with a value after an equals sign. -/
  | assigned (choice : Choice) (value : String)
  /-- A short option with more characters after it, whether or not an equals sign parts them. -/
  | attached (choice : Choice) (tail : List Char)
  | unknown
  deriving DecidableEq, Repr

/-- Whether a word is a negative number, which is no option. -/
def isNegativeNumber (chars : List Char) : Bool :=
  match chars with
  | '-' :: number =>
    let isDecimal (c : Char) : Bool := (Text.decimalValue? c).isSome
    let number := if number.getLast? == some '\n' then number.dropLast else number
    let whole := number.takeWhile isDecimal
    match number.drop whole.length with
    | [] => !whole.isEmpty
    | '.' :: places => !places.isEmpty && places.all isDecimal
    | _ => false
  | _ => false

/-- The part of a word before its first equals sign, and the part after it if there is one. -/
def splitAssignment (chars : List Char) : List Char × Option (List Char) :=
  match chars.dropWhile (· != '=') with
  | [] => (chars, none)
  | _ :: value => (chars.takeWhile (· != '='), some value)

/-- What a word is that is neither an option by its full name nor the start of one. -/
def otherWord (chars : List Char) : Word :=
  if isNegativeNumber chars || chars.contains ' ' then .argument (String.ofList chars) else .unknown

/-- A long option that is shortened, or none if more than one name fits. -/
def shortenedWord? (chars : List Char) : Option Word :=
  let (name, value) := splitAssignment chars
  match names.filter fun (full, _) => name.isPrefixOf full.toList with
  | [] => some (otherWord chars)
  | [(_, choice)] =>
    match value with
    | none => some (.option choice)
    | some value => some (.assigned choice (String.ofList value))
  | _ => none

/-- What a word is that begins with a dash and is no full name, or none if it is ambiguous. -/
def dashedWord? (chars : List Char) : Option Word :=
  let (name, value) := splitAssignment chars
  match value, names.lookup (String.ofList name) with
  | some value, some choice =>
    match name with
    | '-' :: '-' :: _ => some (.assigned choice (String.ofList value))
    | _ => some (.attached choice value)
  | _, _ =>
    match chars with
    | '-' :: '-' :: _ => shortenedWord? chars
    | '-' :: letter :: tail =>
      match short? letter with
      | some choice => some (.attached choice tail)
      | none => some (otherWord chars)
    | _ => some (.argument (String.ofList chars))

/-- What a word is before any separator, or none if it is ambiguous. -/
def word? (text : String) : Option Word :=
  match text.toList with
  | '-' :: rest =>
    match names.lookup text with
    | some choice => some (.option choice)
    | none => if rest.isEmpty then some (.argument text) else dashedWord? text.toList
  | _ => some (.argument text)

/-- What the words of a command line are, or none if one of them is ambiguous. -/
def words? : List String → Option (List Word)
  | [] => some []
  | text :: rest =>
    if text == "--" then some (.separator :: rest.map .argument)
    else do
      let first ← word? text
      let others ← words? rest
      some (first :: others)

/-! ## Effects -/

/-- What an option does. A setting without a value is as if it had not been given. -/
inductive Effect where
  | flag (flag : Flag)
  | setting (setting : Setting) (value : Option String)
  deriving DecidableEq, Repr

/-- What a setting does whose value is in the same word; a double dash there is no value. -/
def Effect.assign (setting : Setting) (text : String) : Effect :=
  .setting setting (if text == "--" then none else some text)

/-- What the options in one word do, and the words after it. -/
structure Step where
  effects : List Effect
  rest : List Word

/-- An option whose value, if it has one, is the next word. -/
def readPlain? (choice : Choice) (rest : List Word) : Option Step :=
  match choice, rest with
  | .flag flag, rest => some { effects := [.flag flag], rest }
  | .setting setting, .argument value :: rest =>
    some { effects := [.setting setting (some value)], rest }
  | _, _ => none

/-- A short option with more characters after it: its value, or further short options. -/
def readAttached? (choice : Choice) (tail : List Char) (rest : List Word) : Option Step :=
  match choice, tail with
  | .setting setting, tail => some { effects := [.assign setting (String.ofList tail)], rest }
  | .flag _, [] => none
  | .flag flag, letter :: others => do
    let next ← short? letter
    let step ← if others.isEmpty then readPlain? next rest else readAttached? next others rest
    some { step with effects := .flag flag :: step.effects }

/-! ## Arguments -/

/-- What a command line asks a run to do. -/
structure Arguments where
  config : String := Config.defaultFileName
  baseDirectory : Option String := none
  outputNamespace : Option String := none
  enumStyle : Option EnumStyle := none
  stdout : Bool := false
  verbose : Bool := false
  quiet : Bool := false
  deriving DecidableEq, Repr

/-- What a command line asks for. -/
inductive Invocation where
  | run (arguments : Arguments)
  | help
  | version
  | misuse
  deriving DecidableEq, Repr

/-- The arguments after an effect, or what the command line asks for instead. -/
def applyEffect (arguments : Arguments) : Effect → Except Invocation Arguments
  | .flag .help => .error .help
  | .flag .version => .error .version
  | .flag .stdout => .ok { arguments with stdout := true }
  | .flag .verbose =>
    if arguments.quiet then .error .misuse else .ok { arguments with verbose := true }
  | .flag .quiet =>
    if arguments.verbose then .error .misuse else .ok { arguments with quiet := true }
  | .setting .baseDirectory value => .ok { arguments with baseDirectory := value }
  | .setting .outputNamespace value => .ok { arguments with outputNamespace := value }
  | .setting .enumStyle none => .ok { arguments with enumStyle := none }
  | .setting .enumStyle (some value) =>
    match EnumStyle.all.find? (·.word == value) with
    | some style => .ok { arguments with enumStyle := some style }
    | none => .error .misuse

/-- The arguments after some effects. -/
def applyEffects (arguments : Arguments) : List Effect → Except Invocation Arguments
  | [] => .ok arguments
  | effect :: rest => do
    let arguments ← applyEffect arguments effect
    applyEffects arguments rest

/-- How far a command line has been read: the arguments so far, whether the configuration file is
still to come, and whether there was a word too many. -/
structure Progress where
  arguments : Arguments := {}
  awaitsConfig : Bool := true
  hasExtra : Bool := false

/-- The progress after the options of one word. -/
def Progress.advance (progress : Progress) (step : Step) : Except Invocation Progress := do
  let arguments ← applyEffects progress.arguments step.effects
  .ok { progress with arguments }

/-- The progress after an argument. -/
def Progress.takeArgument (progress : Progress) (text : String) : Progress :=
  if progress.awaitsConfig then
    { progress with arguments := { progress.arguments with config := text }, awaitsConfig := false }
  else { progress with hasExtra := true }

/-- The words after an argument. The separator belongs to the configuration file if it follows it. -/
def afterArgument (progress : Progress) (rest : List Word) : List Word :=
  match rest with
  | .separator :: others => if progress.awaitsConfig then others else rest
  | _ => rest

/-- What some words ask for; `fuel` bounds their number. -/
def readWords : Nat → Progress → List Word → Invocation
  | 0, _, _ => .misuse
  | _ + 1, progress, [] => if progress.hasExtra then .misuse else .run progress.arguments
  | fuel + 1, progress, word :: rest =>
    let optionStep (step : Option Step) : Invocation :=
      match step with
      | none => .misuse
      | some step =>
        match progress.advance step with
        | .error invocation => invocation
        | .ok progress => readWords fuel progress step.rest
    match word with
    | .argument text => readWords fuel (progress.takeArgument text) (afterArgument progress rest)
    | .separator =>
      let extra := progress.hasExtra || !progress.awaitsConfig
      readWords fuel { progress with hasExtra := extra } rest
    | .unknown => readWords fuel { progress with hasExtra := true } rest
    | .option choice => optionStep (readPlain? choice rest)
    | .assigned (.setting setting) value =>
      optionStep (some { effects := [.assign setting value], rest })
    | .assigned (.flag _) _ => .misuse
    | .attached choice tail => optionStep (readAttached? choice tail rest)

/-- What the words of a command line ask for. -/
def Invocation.ofWords (texts : List String) : Invocation :=
  match words? texts with
  | none => .misuse
  | some words => readWords (words.length + 1) {} words

end Ambient.CommandLine
