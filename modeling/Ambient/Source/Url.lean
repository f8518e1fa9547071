/-
  Ambient.Source.Url

  Scheme and host of a location. Leading blanks and control characters do not matter, and neither do
  tabs and line breaks anywhere. A host with brackets must hold an address between them, and a host
  must not turn into something else when its characters are replaced by compatible ones.
-/
import Ambient.Source.Address
import Ambient.Text.Case

namespace Ambient

/-- The scheme of a location in lower case, and its host; both are empty where there is none. -/
structure Url where
  scheme : List Char := []
  host : List Char := []
  deriving DecidableEq, Repr

namespace Url

/-! ## Parts -/

/-- The location without the characters that do not matter. -/
def clean (location : List Char) : List Char :=
  (location.dropWhile fun c => c.toNat ≤ 32).filter fun c => c != '\t' && c != '\r' && c != '\n'

/-- A character of a scheme. -/
def isSchemeChar (c : Char) : Bool :=
  Text.isAsciiLetter c || Text.isAsciiDigit c || c == '+' || c == '-' || c == '.'

/-- The scheme before the first colon, and what follows the colon. -/
def scheme? (text : List Char) : Option (List Char × List Char) :=
  let scheme := text.takeWhile (· != ':')
  match text.dropWhile (· != ':'), scheme with
  | _ :: rest, first :: _ =>
    if Text.isAsciiLetter first && scheme.all isSchemeChar then some (Text.lower scheme, rest)
    else none
  | _, _ => none

/-- The host after two slashes. -/
def hostOf (text : List Char) : List Char :=
  match text with
  | '/' :: '/' :: rest => rest.takeWhile fun c => c != '/' && c != '?' && c != '#'
  | _ => []

/-! ## Hosts -/

/-- The ranges of characters with a compatible form that ends a host or splits it. -/
def splittingRanges : List (Nat × Nat) :=
  [(0x2047, 0x2049), (0x2100, 0x2101), (0x2105, 0x2106), (0x2A74, 0x2A74), (0xFE13, 0xFE13),
   (0xFE16, 0xFE16), (0xFE55, 0xFE56), (0xFE5F, 0xFE5F), (0xFE6B, 0xFE6B), (0xFF03, 0xFF03),
   (0xFF0F, 0xFF0F), (0xFF1A, 0xFF1A), (0xFF1F, 0xFF20)]

/-- A host without the name of a user before an at sign. -/
def withoutUser (host : List Char) : List Char :=
  (host.reverse.takeWhile (· != '@')).reverse

/-- The address that a host with brackets somewhere names. Nothing but a user comes before brackets
around it, and nothing but a port comes after them. -/
def address? (host : List Char) : Option (List Char) :=
  let place := withoutUser host
  if place.contains '[' then
    match place with
    | '[' :: rest =>
      match rest.dropWhile (· != ']') with
      | _ :: c :: _ => if c == ':' then some (rest.takeWhile (· != ']')) else none
      | _ => some (rest.takeWhile (· != ']'))
    | _ => none
  else some (place.takeWhile (· != ':'))

/-- What is wrong with the brackets in a host, if anything. -/
def bracketFault? (host : List Char) : Option HostFault :=
  if host.contains '[' && host.contains ']' then
    match address? host with
    | some text => Address.fault? text
    | none => some .strayBrackets
  else if host.contains '[' == host.contains ']' then none
  else some .strayBrackets

/-- What is wrong with a host, if anything. Brackets are looked at first. -/
def hostFault? (host : List Char) : Option HostFault :=
  match bracketFault? host with
  | some fault => some fault
  | none =>
    if host.any fun c => Text.inRanges splittingRanges c.toNat then
      some (.split (String.ofList host))
    else none

/-- The parts of a location, if it has a host that a URL can have. -/
def parts (location : String) : Except HostFault Url :=
  let text := clean location.toList
  let (scheme, rest) := (scheme? text).getD ([], text)
  let host := hostOf rest
  match hostFault? host with
  | some fault => .error fault
  | none => .ok { scheme, host }

/-- The parts of a location, or the fault of its host. -/
def ofLocation (location : String) : Except Fault Url :=
  (parts location).mapError .invalidHost

/-! ## Locations on the web -/

/-- Whether a scheme is one of the web. -/
def isWeb (url : Url) : Bool :=
  url.scheme == "http".toList || url.scheme == "https".toList

end Url

/-- Whether a location is on the web. -/
def isUrl (location : String) : Except Fault Bool := do
  let url ← Url.ofLocation location
  .ok url.isWeb

end Ambient
