import PhotoGrouping.DataFormat

namespace PhotoGrouping.Toml

/-- A value of a TOML document. Of floats and dates only the text is kept. -/
inductive Value
  | string (s : String)
  | integer (n : Int)
  | float (text : String)
  | boolean (b : Bool)
  | datetime (text : String)
  | array (items : List Value)
  | table (entries : List (String × Value))
  deriving Repr

/-- How records are read from values. The name of a choice is a text, or the one key of a table
with an empty value. -/
def format : DataFormat Value where
  text?
    | .string s => some s
    | _ => none
  boolean?
    | .boolean b => some b
    | _ => none
  integer?
    | .integer n => some n
    | _ => none
  items?
    | .array items => some items
    | _ => none
  fields?
    | .table fields => some fields
    | _ => none
  name?
    | .string s => some s
    | .table [(key, .table [])] | .table [(key, .array [])] => some key
    | _ => none
  isAbsent _ := false

/-- What a key of a document that is being read stands for. A table is implicit if only its
subtables have been written so far, and dotted if a dotted key has made it. -/
inductive Item
  | value (v : Value)
  | table (implicit dotted : Bool) (entries : List (String × Item))
  | tables (elements : List (List (String × Item)))
  deriving Repr

abbrev Entries := List (String × Item)

/-- The entries with another item for a key that is there. -/
def Entries.replace (key : String) (i : Item) (es : Entries) : Entries :=
  es.map fun e => if e.1 == key then (key, i) else e

/-- Changes the table at a path, which starts as an implicit one where there is none. The path leads
through the last element of an array of tables. Dotted keys cannot reach into tables with a header
of their own. The change is told whether a dotted key has made the table. -/
def Entries.update {α : Type} (dotted : Bool) (change : Bool → Entries → Option (α × Entries)) :
    List String → Bool → Entries → Option (α × Entries)
  | [], madeDotted, es => change madeDotted es
  | key :: path, _, es =>
    match es.lookup key with
    | none => do
      let (a, inner) ← update dotted change path dotted []
      return (a, es ++ [(key, .table true dotted inner)])
    | some (.value _) => none
    | some (.table implicit madeDotted inner) =>
      if dotted && !implicit then none
      else do
        let (a, inner) ← update dotted change path madeDotted inner
        return (a, Entries.replace key (.table implicit madeDotted inner) es)
    | some (.tables elements) =>
      match elements.reverse with
      | [] => none
      | last :: before => do
        let (a, last) ← update dotted change path false last
        return (a, Entries.replace key (.tables (last :: before).reverse) es)

/-- Adds a value under a dotted key; a key can be used once. -/
def Entries.put (path : List String) (key : String) (v : Value) (es : Entries) : Option Entries :=
  let add (madeDotted : Bool) (inner : Entries) : Option (Unit × Entries) :=
    if madeDotted == path.isEmpty then none
    else if (inner.lookup key).isSome then none
    else some ((), inner ++ [(key, .value v)])
  (Entries.update true add path false es).map (·.2)

def splitKey (parts : List String) : List String × String :=
  (parts.dropLast, parts.getLast?.getD "")

/-- A document that is being read: the tables before the last header, and the table since. -/
structure Draft where
  root : Entries := []
  current : Entries := []
  path : List String := []
  isElement : Bool := false
  deriving Repr

namespace Draft

/-- The root with the current table at its place. -/
def settled (d : Draft) : Option Entries :=
  if d.path.isEmpty then some d.current
  else
    let (front, key) := splitKey d.path
    let place (_ : Bool) (es : Entries) : Option (Unit × Entries) :=
      match es.lookup key with
      | none =>
        let i := if d.isElement then Item.tables [d.current] else .table false false d.current
        some ((), es ++ [(key, i)])
      | some (.tables elements) =>
        if d.isElement then some ((), es.replace key (.tables (elements ++ [d.current]))) else none
      | some (.table true _ _) =>
        if d.isElement then none else some ((), es.replace key (.table false false d.current))
      | some _ => none
    (Entries.update false place front false d.root).map (·.2)

/-- Begins the table of a header, which must not have one yet. -/
def beginTable (d : Draft) (parts : List String) : Option Draft := do
  let root ← d.settled
  let (front, key) := splitKey parts
  let take (_ : Bool) (es : Entries) : Option (Entries × Entries) :=
    match es.lookup key with
    | none => some ([], es)
    | some (.table true false inner) => some (inner, es.filter (·.1 != key))
    | some _ => none
  let (current, root) ← Entries.update false take front false root
  return { root := root, current := current, path := parts }

/-- Begins an element of the array of tables of a header. -/
def beginElement (d : Draft) (parts : List String) : Option Draft := do
  let root ← d.settled
  let (front, key) := splitKey parts
  let check (_ : Bool) (es : Entries) : Option (Unit × Entries) :=
    match es.lookup key with
    | none | some (.tables _) => some ((), es)
    | some _ => none
  let (_, root) ← Entries.update false check front false root
  return { root := root, path := parts, isElement := true }

/-- Adds a value under a dotted key of the current table. -/
def put (d : Draft) (parts : List String) (v : Value) : Option Draft := do
  let (front, key) := splitKey parts
  return { d with current := ← d.current.put front key v }

end Draft

mutual

def Item.toValue : Item → Value
  | .value v => v
  | .table _ _ entries => .table (entriesValues entries)
  | .tables elements => .array (elementsValues elements)

def entriesValues : List (String × Item) → List (String × Value)
  | [] => []
  | (key, i) :: rest => (key, i.toValue) :: entriesValues rest

def elementsValues : List (List (String × Item)) → List Value
  | [] => []
  | es :: rest => .table (entriesValues es) :: elementsValues rest

end

end PhotoGrouping.Toml
