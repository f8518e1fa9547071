/-
  Ambient.Config.Keys

  Keys of configuration objects. How a key is capitalised and how its words are separated does not
  matter, keys that mean nothing are passed over, and of several keys for one setting the last one
  counts.
-/
import Ambient.Json.Reader
import Ambient.Text.Words

namespace Ambient.Config

/-- What is left of a key when its words are run together in lower case. -/
def normalKey (key : String) : String :=
  String.ofList ((Text.snakeCase key.toList).filter (· != '_'))

/-- The setting that a key means; of several names that it spells the last one counts. -/
def meaning? (names : List String) (key : String) : Option String :=
  (names.filter fun name => normalKey name == normalKey key).getLast?

/-- The settings that an object gives, each under its own name. -/
def settingsOf (names : List String) (data : List (String × Json)) : List (String × Json) :=
  data.foldl (fun settings (key, value) =>
    match meaning? names key with
    | some name => Json.setField name value settings
    | none => settings) []

end Ambient.Config
