/-
  Ambient.Source.Address

  Which texts can stand between the brackets of a host: addresses of eight groups of hexadecimal
  digits, one run of zero groups shortened and the last two groups in decimal if so written, and
  addresses of versions to come.
-/
import Ambient.Fault
import Ambient.Text.Digits
import Ambient.Text.Split

namespace Ambient.Address

/-! ## Groups -/

/-- Whether a text is a decimal number below 256 without needless zeros. -/
def isOctet (text : List Char) : Bool :=
  !text.isEmpty && text.all Text.isAsciiDigit && text.length ≤ 3 &&
    (text == ['0'] || text.head? != some '0') && Text.digitsValue text ≤ 255

/-- Whether a text is four octets with dots between them. -/
def isDotted (text : List Char) : Bool :=
  let octets := Text.splitOn '.' text
  octets.length == 4 && octets.all isOctet

/-- Whether a text is a group of at most four hexadecimal digits. -/
def isGroup (text : List Char) : Bool :=
  !text.isEmpty && text.length ≤ 4 && text.all (Text.isDigitOf 16)

/-- The groups of an address, with two zero groups for an ending in decimal. -/
def groups? (text : List Char) : Option (List (List Char)) :=
  let parts := Text.splitOn ':' text
  let last := parts.getLast?.getD []
  if parts.length < 3 then none
  else if last.contains '.' then
    if isDotted last then some (parts.dropLast ++ [['0'], ['0']]) else none
  else some parts

/-! ## Addresses -/

/-- Whether groups, of which one in the middle is empty, stand for eight groups. The empty group may
be shared with either end of the address. -/
def isShortened (groups : List (List Char)) : Bool :=
  let before := groups.takeWhile (fun g => !g.isEmpty)
  let (before, rest) :=
    match groups with
    | [] :: others => ([], others)
    | _ => (before, groups.drop before.length)
  match rest with
  | [] :: after =>
    let after := if after == [[]] then [] else after
    before.all isGroup && after.all isGroup && before.length + after.length ≤ 7
  | _ => false

/-- Whether an address is eight groups of digits, some of them shortened. -/
def isGrouped (text : List Char) : Bool :=
  match groups? text with
  | none => false
  | some groups =>
    if 9 < groups.length then false
    else if (groups.drop 1).dropLast.any List.isEmpty then isShortened groups
    else groups.length == 8 && groups.all isGroup

/-- The address before its zone, if the zone is well formed. -/
def beforeZone? (text : List Char) : Option (List Char) :=
  match text.dropWhile (· != '%') with
  | [] => some text
  | _ :: zone =>
    if zone.isEmpty || zone.contains '%' then none else some (text.takeWhile (· != '%'))

/-- Whether a text is an address of a version to come: a `v`, hexadecimal digits, a dot and more. -/
def isFuture (text : List Char) : Bool :=
  match text with
  | 'v' :: rest =>
    let digits := rest.takeWhile (Text.isDigitOf 16)
    match rest.drop digits.length with
    | '.' :: more => !digits.isEmpty && !more.isEmpty && !more.contains '\n'
    | _ => false
  | _ => false

/-- What is wrong with a text between the brackets of a host, if anything. -/
def fault? (text : List Char) : Option HostFault :=
  if text.head? == some 'v' then if isFuture text then none else some .futureAddress
  else if isDotted text then some .dottedAddress
  else if !text.contains '/' && ((beforeZone? text).map isGrouped).getD false then none
  else some (.notAddress (String.ofList text))

end Ambient.Address
