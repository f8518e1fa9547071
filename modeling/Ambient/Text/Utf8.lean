/-
  Ambient.Text.Utf8

  Why some bytes encode no text. Each character is a leading byte, which tells how many bytes follow
  it and how far the first of them may range, and bytes from 80 to BF after it. The first byte that
  breaks this rule, or the end of the bytes, decides the fault.
-/
import Ambient.Text.Quoted

namespace Ambient.Utf8

/-! ## Leading bytes -/

/-- What a character still needs: a number of bytes, of which the next one lies in a range. -/
structure Owed where
  count : Nat := 0
  low : Nat := 0x80
  high : Nat := 0xBF
  deriving DecidableEq, Repr

/-- What a character needs after its leading byte; no character begins with a byte that stands for
nothing on its own or would encode a number that is too small or too large. -/
def owed? (lead : UInt8) : Option Owed :=
  let n := lead.toNat
  if n < 0x80 then some {}
  else if n < 0xC2 then none
  else if n < 0xE0 then some { count := 1 }
  else if n == 0xE0 then some { count := 2, low := 0xA0 }
  else if n == 0xED then some { count := 2, high := 0x9F }
  else if n < 0xF0 then some { count := 2 }
  else if n == 0xF0 then some { count := 3, low := 0x90 }
  else if n < 0xF4 then some { count := 3 }
  else if n == 0xF4 then some { count := 3, high := 0x8F }
  else none

/-! ## Faults -/

/-- The ways in which bytes can fail to encode a text. -/
inductive Problem where
  | badStart
  | badContinuation
  | endsEarly
  deriving DecidableEq, Repr

/-- The words for a problem. -/
def Problem.words : Problem → String
  | .badStart => "invalid start byte"
  | .badContinuation => "invalid continuation byte"
  | .endsEarly => "unexpected end of data"

/-- A problem with the bytes of a character that are there, and the place of the first of them. -/
structure Fault where
  problem : Problem
  place : Nat
  bytes : List UInt8
  deriving DecidableEq, Repr

/-- The bytes that a fault is about and where they are. -/
def Fault.extent (fault : Fault) : String :=
  match fault.bytes with
  | [byte] =>
    "byte 0x" ++ String.ofList (Text.hexPadded 2 byte.toNat) ++ " in position " ++
      toString fault.place
  | bytes =>
    "bytes in position " ++ toString fault.place ++ "-" ++
      toString (fault.place + bytes.length - 1)

/-- The words for bytes that encode no text. -/
def Fault.message (fault : Fault) : String :=
  "'utf-8' codec can't decode " ++ fault.extent ++ ": " ++ fault.problem.words

/-- The first fault of some bytes from a place on, where the bytes `seen`, in reverse, begin a
character that needs more. -/
def faultFrom? (place : Nat) (seen : List UInt8) (owed : Owed) : List UInt8 → Option Fault
  | [] =>
    if owed.count == 0 then none
    else some { problem := .endsEarly, place := place - seen.length, bytes := seen.reverse }
  | byte :: rest =>
    if owed.count == 0 then
      match owed? byte with
      | none => some { problem := .badStart, place, bytes := [byte] }
      | some owed => faultFrom? (place + 1) [byte] owed rest
    else if owed.low ≤ byte.toNat && byte.toNat ≤ owed.high then
      faultFrom? (place + 1) (byte :: seen) { count := owed.count - 1 } rest
    else
      some { problem := .badContinuation, place := place - seen.length, bytes := seen.reverse }

/-- The first fault of some bytes. -/
def fault? (bytes : List UInt8) : Option Fault :=
  faultFrom? 0 [] {} bytes

/-- The words for the first fault of some bytes, or nothing if they encode a text. -/
def complaint (bytes : List UInt8) : String :=
  ((fault? bytes).map Fault.message).getD ""

end Ambient.Utf8
