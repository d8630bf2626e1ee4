import SqlDialect.Json

/-!
# Reading records and tags from JSON

A record of named fields is written as an object, in which other fields are ignored, or as an array
of the fields in their order, which may end before the last field. A tag, one of a fixed set of
names, is written as a string or as an object whose only field is the tag with the value `null`.
-/

namespace SqlDialect.Json

/-- What an array form with more items than fields means. -/
inductive ExtraItems where
  /-- It is no record. -/
  | refused
  /-- The further items are ignored. -/
  | ignored
deriving DecidableEq, Repr

/-- The values of the named fields, in the order of the names; nothing for a field that is not
there. -/
def record? (extra : ExtraItems) (names : List String) : Json → Option (List (Option Json))
  | .object fields => some (names.map fun name => KeyedMap.valueAt? name fields)
  | .array items =>
    if items.length ≤ names.length then
      some (items.map some ++ List.replicate (names.length - items.length) none)
    else
      match extra with
      | .refused => none
      | .ignored => some ((items.take names.length).map some)
  | _ => none

/-- The text of a tag. -/
def tag? : Json → Option String
  | .string tag => some tag
  | .object [(tag, .null)] => some tag
  | _ => none

/-- The values of a list, if all of its items have one. -/
def all? {α β : Type} (read : α → Option β) : List α → Option (List β)
  | [] => some []
  | item :: items => do
    let value ← read item
    let values ← all? read items
    return value :: values

end SqlDialect.Json
