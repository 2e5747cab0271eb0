import PhotoGrouping.DataFormat
import PhotoGrouping.Json

namespace PhotoGrouping.Json

/-- How records are read from values. The name of a choice is a text, or the one key of an object
with null. -/
def format : DataFormat Json where
  text?
    | .text s => some s
    | _ => none
  boolean?
    | .boolean b => some b
    | _ => none
  integer?
    | .integer n => some n
    | _ => none
  items?
    | .array items => some items
    | _ => none
  fields?
    | .object fields => some fields
    | _ => none
  name?
    | .text s => some s
    | .object [(key, .null)] => some key
    | _ => none
  isAbsent
    | .null => true
    | _ => false

/-- The fields of a record, none of whose keys is given twice; an array gives them in the order of the
keys. -/
def record? (keys : List String) : Json → Option (List (String × Json))
  | .object fields =>
    if keys.all fun key => (fields.filter (·.1 = key)).length ≤ 1 then some fields else none
  | .array items => if items.length ≤ keys.length then some (keys.zip items) else none
  | _ => none

def number? : Json → Option Float
  | .number x => some x
  | .integer n => some (Float.ofInt n)
  | _ => none

/-- The map of a value from texts to what is read from their values. -/
def map? {α : Type} (read : Json → Option α) : Json → Option (List (String × α))
  | .object fields => fields.mapM fun (key, v) => (read v).map (key, ·)
  | _ => none

def ofMap {α : Type} (write : α → Json) (m : List (String × α)) : Json :=
  .object (m.map fun (key, a) => (key, write a))

end PhotoGrouping.Json
