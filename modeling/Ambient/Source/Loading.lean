/-
  Ambient.Source.Loading

  Loading JSON documents from files and from the web. Whatever goes wrong has a cause of its own;
  the causes that come from the document itself name the place where reading stopped.

  The web is what a client from outside makes of it: `Response` lists the documented outcomes of a
  request, and `World.isFailure` and `World.documentOf` tell what the client takes for a failure and
  for a document. Statements about loading hold for every outcome at every location.
-/
import Ambient.Json.Nesting
import Ambient.Source.FileTree
import Ambient.Source.Url

namespace Ambient

/-! ## The web -/

/-- What comes of a request. -/
inductive Response where
  /-- A page with its status. -/
  | page (status : Int) (body : String)
  /-- A page whose body is refused as no document, with the reason. -/
  | refusedBody (status : Int) (reason : String)
  | timeout
  | noConnection
  /-- An error of the protocol without a response. -/
  | noResponse
  /-- Any other failure of the request. -/
  | failed (reason : String)
  deriving DecidableEq, Repr

/-- A request that is made, with the time in seconds that it may take. -/
structure Request where
  url : String
  timeout : Json
  deriving Repr

/-- Where documents are loaded from: a tree of files and the pages of the web. -/
structure World where
  files : FileTree := {}
  web : List (String × Response) := []

/-- A document with the place that it was loaded from. -/
structure Loaded where
  source : String
  data : Json
  deriving Repr

/-- The time in seconds that a request may take by default. -/
def defaultTimeout : Json := .int 30

namespace World

/-- What comes of a request for a location; there is no connection to unknown ones. -/
def response (world : World) (url : String) : Response :=
  (world.web.lookup url).getD .noConnection

/-- Whether a status tells that a request failed. -/
def isFailure (status : Int) : Bool :=
  400 ≤ status && status < 600

/-- The document in the body of a page. -/
def documentOf (url body : String) : Except Fault Json :=
  if Json.isTooDeep body then .error .tooDeep
  else
    match Json.parse body with
    | .ok data => .ok data
    | .error (.tooManyDigits count) =>
      .error (.source (.invalidBody url (Json.ReadFault.tooManyDigits count).message))
    | .error fault => .error (.source (.requestFailed url fault.message))

/-- The document that a response brings. -/
def answer (url : String) : Response → Except Fault Json
  | .page status body =>
    if isFailure status then .error (.source (.httpStatus status url)) else documentOf url body
  | .refusedBody status reason =>
    if isFailure status then .error (.source (.httpStatus status url))
    else .error (.source (.invalidBody url reason))
  | .timeout => .error (.source (.timeout url))
  | .noConnection => .error (.source (.noConnection url))
  | .noResponse => unsuitable (.noMember .null "status_code")
  | .failed reason => .error (.source (.requestFailed url reason))

/-- The document at a location on the web. -/
def loadUrl (world : World) (location : String) : Except Fault Loaded := do
  let url ← Url.ofLocation location
  if url.scheme.isEmpty || url.host.isEmpty then .error (.source (.invalidUrl location))
  else
    let data ← answer location (world.response location)
    .ok { source := location, data }

/-! ## Files -/

/-- The fault of a file that could not be read. -/
def readFault (path : Path) : FileFault → Fault
  | .refused problem text =>
    .source (.unreadableFile path.text (FileFault.refused problem text).message)
  | fault => .file fault

/-- The document in a file. -/
def loadFile (world : World) (path : Path) : Except Fault Loaded := do
  let present ← (world.files.contains path).mapError Fault.file
  if !present then .error (.fileMissing path.text)
  else
    let text ← (world.files.read path).mapError (readFault path)
    if Json.isTooDeep text then .error .tooDeep
    else
      match Json.parse text with
      | .ok data => .ok { source := path.text, data }
      | .error (.tooManyDigits count) => .error (.tooManyDigits count)
      | .error fault => .error (.source (.malformedFile path.text fault.message))

/-! ## Locations -/

/-- The document at a location. -/
def load (world : World) (location : String) : Except Fault Loaded := do
  if location.isAllBlank then .error (.source .noLocation)
  else if ← isUrl location then world.loadUrl location
  else world.loadFile (Path.ofText location)

/-- The request that is made to load a location, if one is. -/
def request? (timeout : Json) (location : String) : Option Request :=
  match Url.ofLocation location with
  | .ok url =>
    if !location.isAllBlank && url.isWeb && !url.host.isEmpty then some { url := location, timeout }
    else none
  | .error _ => none

end World

end Ambient
