/-
  Ambient.Console.Pictograph

  Pictographs by their names. A name stands between colons without a blank, in any case, and may end
  in the presentation that is wanted. A name that stands for nothing stays as it is. The names are
  those of the renderer from outside (`Ambient.Console`).
-/
import Ambient.Console.PictographTable
import Ambient.Text.Case
import Ambient.Text.Digits
import Ambient.Text.Split

namespace Ambient.Console

/-! ## Names -/

/-- The characters that code points with plus signs between them stand for. -/
def charsOfPoints (points : List Char) : List Char :=
  (Text.splitOn '+' points).map fun digits => Char.ofNat (Text.valueIn 16 digits)

/-- A name and its pictograph, as an equals sign parts them in the table. -/
def pictographEntry (entry : List Char) : List Char × List Char :=
  (entry.takeWhile (· != '='), charsOfPoints ((entry.dropWhile (· != '=')).drop 1))

/-- All pictographs by their names. -/
def pictographs : List (List Char × List Char) :=
  pictographRows.flatMap fun row => (Text.splitOn ' ' row.toList).map pictographEntry

/-- The presentations that a name may ask for at its end, each with the selector for it. -/
def presentations : List (List Char × Char) :=
  [("-emoji".toList, Char.ofNat 0xFE0F), ("-text".toList, Char.ofNat 0xFE0E)]

/-- The pictograph that stands for what is between colons. -/
def pictograph? (code : List Char) : Option (List Char) :=
  match presentations.find? fun (ending, _) => ending.isSuffixOf code with
  | some (ending, selector) =>
    (pictographs.lookup (Text.lower (code.take (code.length - ending.length)))).map
      (· ++ [selector])
  | none => pictographs.lookup (Text.lower code)

/-! ## Texts -/

/-- The text with pictographs in place of their names. -/
def drawPictographs (text : List Char) : List Char :=
  match text with
  | [] => []
  | ':' :: rest =>
    let code := rest.takeWhile fun c => c != ':' && !Text.isBlank c
    if (rest.drop code.length).head? == some ':' then
      (pictograph? code).getD (':' :: code ++ [':']) ++
        drawPictographs (rest.drop (code.length + 1))
    else ':' :: drawPictographs rest
  | c :: rest => c :: drawPictographs rest
termination_by text.length
decreasing_by all_goals (simp only [List.length_cons, List.length_drop]; omega)

end Ambient.Console
