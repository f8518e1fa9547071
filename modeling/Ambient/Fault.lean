/-
  Ambient.Fault

  Everything that can go wrong, by cause, and the words for each cause. A fault of configuration,
  manifest, symbol or source is a cause of its own; a value of an unsuitable kind, a file that
  cannot be used and a text that is no number are faults that any stage can meet.
-/
import Ambient.Json.Text
import Ambient.Json.Reader
import Ambient.Text.Escape

namespace Ambient

/-! ## Unsuitable values -/

/-- The word for a kind of value. -/
def Kind.word : Kind → String
  | .null => "NoneType"
  | .bool => "bool"
  | .int => "int"
  | .float => "float"
  | .str => "str"
  | .arr => "list"
  | .obj => "dict"

/-- A value that cannot be used in the way it is asked to be. -/
inductive ValueFault where
  /-- A value without items is gone through item by item. -/
  | notIterable (kind : Kind)
  /-- The first item of a value without items is taken. -/
  | notIndexable (kind : Kind)
  /-- The first item of an object is taken, whose fields have no number. -/
  | noFirstItem
  /-- A value that is no text is asked for what texts have. -/
  | noMember (kind : Kind) (member : String)
  /-- A value that is no text is put after a text. -/
  | notJoinable (kind : Kind)
  /-- A text is put after a value that is no text. -/
  | notExtensible (kind : Kind)
  /-- A list or an object serves as a key. -/
  | notKey (kind : Kind)
  /-- A value that is no number is compared with a number. -/
  | notOrdered (kind : Kind)
  /-- A value that is no integer tells how often something is repeated. -/
  | notCount (kind : Kind)
  /-- A count is beyond the range of counts. -/
  | countTooLarge
  /-- A value that is no text is taken for a path. -/
  | notPath (kind : Kind)
  /-- A value that is no text is shown in a table. -/
  | notShown (kind : Kind)
  /-- Digits without place value are read as a number. -/
  | notDigits (text : String)
  /-- An infinite number is read as an integer. -/
  | notFinite
  deriving DecidableEq, Repr

/-- The words for an unsuitable value. -/
def ValueFault.message : ValueFault → String
  | .notIterable kind => "'" ++ kind.word ++ "' object is not iterable"
  | .notIndexable kind => "'" ++ kind.word ++ "' object is not subscriptable"
  | .noFirstItem => "0"
  | .noMember kind member =>
    "'" ++ kind.word ++ "' object has no attribute '" ++ member ++ "'"
  | .notJoinable kind => "can only concatenate str (not \"" ++ kind.word ++ "\") to str"
  | .notExtensible kind =>
    if kind == .arr then "can only concatenate list (not \"str\") to list"
    else "unsupported operand type(s) for +: '" ++ kind.word ++ "' and 'str'"
  | .notKey kind => "unhashable type: '" ++ kind.word ++ "'"
  | .notOrdered kind =>
    "'<' not supported between instances of '" ++ kind.word ++ "' and 'int'"
  | .notCount kind => "can't multiply sequence by non-int of type '" ++ kind.word ++ "'"
  | .countTooLarge => "cannot fit 'int' into an index-sized integer"
  | .notPath kind => "expected str, bytes or os.PathLike object, not " ++ kind.word
  | .notShown kind =>
    "unable to render " ++ kind.word ++ "; a string or other renderable object is required"
  | .notDigits text => "invalid literal for int() with base 10: " ++ text.inQuotes
  | .notFinite => "cannot convert float infinity to integer"

/-! ## Files -/

/-- Why a file or a directory could not be used. -/
inductive FileProblem where
  | missing
  | exists
  | notDirectory
  | isDirectory
  | nameTooLong
  deriving DecidableEq, Repr

/-- The number of a problem with a file. -/
def FileProblem.number : FileProblem → Nat
  | .missing => 2
  | .exists => 17
  | .notDirectory => 20
  | .isDirectory => 21
  | .nameTooLong => 36

/-- The words for a problem with a file. -/
def FileProblem.words : FileProblem → String
  | .missing => "No such file or directory"
  | .exists => "File exists"
  | .notDirectory => "Not a directory"
  | .isDirectory => "Is a directory"
  | .nameTooLong => "File name too long"

/-- Why the text of a file could not be read or written. -/
inductive FileFault where
  /-- The file system refuses the path. -/
  | refused (problem : FileProblem) (path : String)
  /-- The path holds a character that no path can hold. -/
  | invalidPath
  /-- The bytes of the file are not the encoding of a text. -/
  | undecodable (complaint : String)
  deriving DecidableEq, Repr

/-- The words for a file that could not be read or written. -/
def FileFault.message : FileFault → String
  | .refused problem path =>
    "[Errno " ++ toString problem.number ++ "] " ++ problem.words ++ ": " ++ path.inQuotes
  | .invalidPath => "embedded null byte"
  | .undecodable complaint => complaint

/-! ## Configuration -/

/-- Why a configuration is refused. -/
inductive ConfigFault where
  | invalidEnumStyle (shown : String)
  | rulesNotList
  | invalidRule (shown : String)
  | noManifest
  | manifestTwice
  | emptyManifest
  | noOutputPath
  | noOutputFileName
  | noNamespace
  | emptyNamespace
  | negativeIndent
  | malformed (path cause : String)
  | unreadable (path cause : String)
  | notObject (path : String)
  | unwritable (path cause : String)
  deriving DecidableEq, Repr

/-- The words for a configuration that is refused. -/
def ConfigFault.message : ConfigFault → String
  | .invalidEnumStyle shown =>
    "Invalid enumStyle '" ++ shown ++ "'. Expected one of: numeric, string, string_literal"
  | .rulesNotList => "'namespaces' must be a list"
  | .invalidRule shown => "Invalid namespace entry: " ++ shown
  | .noManifest => "Either 'manifest' or 'manifests' must be specified in configuration."
  | .manifestTwice => "Cannot specify both 'manifest' and 'manifests'"
  | .emptyManifest => "Manifest name in 'manifests' array cannot be empty"
  | .noOutputPath => "'outputPath' must be specified"
  | .noOutputFileName => "'outputFileName' must be specified"
  | .noNamespace => "At least one namespace must be specified"
  | .emptyNamespace => "Namespace name cannot be empty"
  | .negativeIndent => "'indentSize' cannot be negative"
  | .malformed path cause => "Invalid JSON in configuration file " ++ path ++ ": " ++ cause
  | .unreadable path cause => "Failed to load configuration file " ++ path ++ ": " ++ cause
  | .notObject path => "Configuration file must contain a JSON object: " ++ path
  | .unwritable path cause => "Failed to save configuration to " ++ path ++ ": " ++ cause

/-! ## Manifests and symbols -/

/-- Why a manifest is refused. -/
inductive ManifestFault where
  | notManifest
  | entryNotObject (shown : String)
  | entryWithoutName (shown : String)
  | unknownKind (kind name : String)
  | memberWithoutName (owner shown : String)
  | valueWithoutName (owner shown : String)
  | valueNotInteger (owner name : String)
  | mapArguments (shown : String)
  deriving DecidableEq, Repr

/-- The words for a manifest that is refused. -/
def ManifestFault.message : ManifestFault → String
  | .notManifest => "Manifest must be a list of types or an object with 'types'"
  | .entryNotObject shown => "Type entry must be an object: " ++ shown
  | .entryWithoutName shown => "Type entry is missing a name: " ++ shown
  | .unknownKind kind name => "Unknown kind '" ++ kind ++ "' for type '" ++ name ++ "'"
  | .memberWithoutName owner shown => "Member of '" ++ owner ++ "' is missing a name: " ++ shown
  | .valueWithoutName owner shown =>
    "Enum value of '" ++ owner ++ "' is missing a name: " ++ shown
  | .valueNotInteger owner name =>
    "Enum value '" ++ owner ++ "." ++ name ++ "' must be an integer"
  | .mapArguments shown => "Map type needs exactly two type arguments: " ++ shown

/-- Why a symbol cannot enter the model. -/
inductive SymbolFault where
  | absent
  | arityMismatch (fullName : String) (declared parameters : Nat)
  deriving DecidableEq, Repr

/-- The words for a symbol that cannot enter the model. -/
def SymbolFault.message : SymbolFault → String
  | .absent => "Cannot add a null type symbol to the model"
  | .arityMismatch fullName declared parameters =>
    "Type '" ++ fullName ++ "' declares arity " ++ toString declared ++ " but has " ++
      toString parameters ++ " generic parameter(s)"

/-! ## Sources -/

/-- Why a JSON source could not be loaded. -/
inductive SourceFault where
  | noLocation
  | malformedFile (path cause : String)
  | unreadableFile (path cause : String)
  | invalidUrl (url : String)
  | timeout (url : String)
  | noConnection (url : String)
  | httpStatus (status : Int) (url : String)
  | requestFailed (url cause : String)
  | invalidBody (url cause : String)
  deriving DecidableEq, Repr

/-- The words for a source that could not be loaded. -/
def SourceFault.message : SourceFault → String
  | .noLocation => "A file path or URL must be provided"
  | .malformedFile path cause => "Invalid JSON in file " ++ path ++ ": " ++ cause
  | .unreadableFile path cause => "Error reading file " ++ path ++ ": " ++ cause
  | .invalidUrl url => "Invalid URL: " ++ url
  | .timeout url => "Request timeout for URL: " ++ url
  | .noConnection url => "Connection error for URL: " ++ url
  | .httpStatus status url => "HTTP error " ++ toString status ++ " for URL: " ++ url
  | .requestFailed url cause => "Request error for URL " ++ url ++ ": " ++ cause
  | .invalidBody url cause => "Invalid JSON response from URL " ++ url ++ ": " ++ cause

/-- Why a type manifest could not be found or loaded. -/
inductive DiscoveryFault where
  | notFound (location : String)
  | notLoaded (location : String) (cause : SourceFault)
  deriving DecidableEq, Repr

/-- The words for a manifest that could not be found or loaded. -/
def DiscoveryFault.message : DiscoveryFault → String
  | .notFound location => "Type manifest not found: " ++ location
  | .notLoaded location cause =>
    "Failed to load type manifest " ++ location ++ ": " ++ cause.message

/-- Why a host is one that no URL can have. -/
inductive HostFault where
  /-- Brackets do not come as a pair around all but a user and a port. -/
  | strayBrackets
  /-- The brackets are not around an address. -/
  | notAddress (text : String)
  /-- The brackets are around an address of four numbers. -/
  | dottedAddress
  /-- The brackets are around an ill-formed address of a version to come. -/
  | futureAddress
  /-- The host is split by characters that others of it are compatible with. -/
  | split (host : String)
  deriving DecidableEq, Repr

/-- The words for a host that no URL can have. -/
def HostFault.message : HostFault → String
  | .strayBrackets => "Invalid IPv6 URL"
  | .notAddress text => text.inQuotes ++ " does not appear to be an IPv4 or IPv6 address"
  | .dottedAddress => "An IPv4 address cannot be in brackets"
  | .futureAddress => "IPvFuture address is invalid"
  | .split host => "netloc '" ++ host ++ "' contains invalid characters under NFKC normalization"

/-! ## All faults -/

/-- Why a run, or a step of it, failed. -/
inductive Fault where
  | config (cause : ConfigFault)
  | manifest (cause : ManifestFault)
  | symbol (cause : SymbolFault)
  | discovery (cause : DiscoveryFault)
  | source (cause : SourceFault)
  /-- The configuration file does not exist. -/
  | configMissing (path : String)
  /-- A JSON file does not exist. -/
  | fileMissing (path : String)
  /-- A template could not be rendered. -/
  | template (name cause : String)
  /-- A quoted text in a template has an escape that cannot be read. -/
  | escape (cause : Text.EscapeFault)
  /-- Generation failed. -/
  | generation (cause : String)
  | value (cause : ValueFault)
  | file (cause : FileFault)
  /-- An integer in a document has too many digits. -/
  | tooManyDigits (count : Nat)
  /-- Lists and objects of a document stand too deep inside each other. -/
  | tooDeep
  /-- A location has a host that no URL can have. -/
  | invalidHost (cause : HostFault)
  /-- Text for the console closes a style that is not open. -/
  | unbalancedStyle (tag : String)
  /-- Text for the console has a handler with parameters that are no literal. -/
  | badHandler (parameters : String)
  /-- A formatter given by the caller failed. -/
  | formatter (cause : String)
  deriving DecidableEq, Repr

/-- The words for a fault. -/
def Fault.message : Fault → String
  | .config cause => cause.message
  | .manifest cause => cause.message
  | .symbol cause => cause.message
  | .discovery cause => cause.message
  | .source cause => cause.message
  | .configMissing path => "Configuration file not found: " ++ path
  | .fileMissing path => "File not found: " ++ path
  | .template name cause => "Failed to render template " ++ name ++ ": " ++ cause
  | .escape cause => cause.message
  | .generation cause => cause
  | .value cause => cause.message
  | .file cause => cause.message
  | .tooManyDigits count => (Json.ReadFault.tooManyDigits count).message
  | .tooDeep => "maximum recursion depth exceeded"
  | .invalidHost cause => cause.message
  | .unbalancedStyle tag => "closing tag '[" ++ tag ++ "]' doesn't match any open tag"
  | .badHandler parameters => "error parsing " ++ parameters.inQuotes
  | .formatter cause => cause

/-- The fault of a value that cannot be used. -/
def unsuitable {α : Type} (cause : ValueFault) : Except Fault α :=
  .error (.value cause)

/-! ## Uses of values -/

namespace Json

/-- The items of a value: those of a list, the keys of an object, the characters of a text. -/
def items (value : Json) : Except Fault (List Json) :=
  match value with
  | .arr items => .ok items
  | .obj fields => .ok (fields.map fun (key, _) => .str key)
  | .str s => .ok (s.toList.map fun c => .str c.toString)
  | _ => unsuitable (.notIterable value.kind)

/-- The text that a value is, when it is asked for what only texts have. -/
def textFor (member : String) (value : Json) : Except Fault String :=
  match value with
  | .str s => .ok s
  | _ => unsuitable (.noMember value.kind member)

/-- The value as a key. -/
def asKey (value : Json) : Except Fault Json :=
  if value.isKey then .ok value else unsuitable (.notKey value.kind)

end Json

end Ambient
