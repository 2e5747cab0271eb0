namespace PhotoGrouping

/-- A JSON value. The fields of an object are in the order in which they are written. -/
inductive Json
  | null
  | boolean (b : Bool)
  | integer (n : Int)
  | number (x : Float)
  | text (s : String)
  | array (items : List Json)
  | object (fields : List (String × Json))
  deriving Repr, Inhabited

namespace Json

def texts (ss : List String) : Json :=
  .array (ss.map .text)

def natural (n : Nat) : Json :=
  .integer n

def textOrNull : Option String → Json
  | some s => .text s
  | none => .null

def textField (key : String) : Option String → List (String × Json)
  | some s => [(key, .text s)]
  | none => []

end Json

end PhotoGrouping
