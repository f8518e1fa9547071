/-
  Ambient.Grouping

  Values grouped by key. Groups stand in the order in which their keys first appear, and the values
  of a group in the order in which they come.
-/
import Ambient.Json.Basic

namespace Ambient.Grouping

variable {α : Type}

/-- The groups with one more value at the end of the group of its key. -/
def insert (groups : List (Json × List α)) (key : Json) (value : α) : List (Json × List α) :=
  match groups with
  | [] => [(key, [value])]
  | (k, values) :: rest =>
    if k.same key then (k, values ++ [value]) :: rest else (k, values) :: insert rest key value

/-- The groups of some values with their keys. -/
def ofList (entries : List (Json × α)) : List (Json × List α) :=
  entries.foldl (fun groups (key, value) => insert groups key value) []

end Ambient.Grouping
