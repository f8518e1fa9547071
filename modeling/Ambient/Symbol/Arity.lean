/-
  Ambient.Symbol.Arity

  The arity marker of generic types: a grave accent after the name, followed by the number of type
  parameters. A marker at the start of a name is part of the name.
-/
import Ambient.Fault

namespace Ambient

/-- The character that separates the name of a generic type from its arity. -/
def arityMarker : Char := '\x60'

namespace Arity

/-- The name before its arity marker and the text after it. -/
def split? (name : String) : Option (String × String) :=
  let chars := name.toList
  let before := chars.takeWhile (· != arityMarker)
  match chars.dropWhile (· != arityMarker) with
  | [] => none
  | _ :: after =>
    if before.isEmpty then none else some (String.ofList before, String.ofList after)

/-- The name without its arity marker. -/
def strip (name : String) : String :=
  match split? name with
  | some (before, _) => before
  | none => name

/-- The arity that a name declares, zero where it declares none. Digits that have no place value
are no number. -/
def declared (name : String) : Except Fault Nat :=
  match split? name with
  | none => .ok 0
  | some (_, suffix) =>
    if suffix.isEmpty || !suffix.toList.all Text.isDigit then .ok 0
    else match Text.integer? suffix.toList with
      | some n => .ok n.toNat
      | none => unsuitable (.notDigits suffix)

/-- Whether a name holds an arity marker anywhere. -/
def isMarked (name : String) : Bool :=
  name.toList.contains arityMarker

/-- A name with an arity marker. -/
def mark (name : String) (arity : Nat) : String :=
  name ++ String.ofList [arityMarker] ++ toString arity

end Arity

end Ambient
