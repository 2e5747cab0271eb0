import PhotoGrouping.Listing
import PhotoGrouping.TokenAnalysis

namespace PhotoGrouping

open Text

/-- What to do with a segment that has no known type. -/
inductive SegmentAction
  /-- The segment is left out. -/
  | ignore
  /-- The segment is a fixed text. -/
  | customToken
  /-- The segment varies freely. -/
  | freeText
  deriving Repr, DecidableEq

namespace SegmentAction

def all : List SegmentAction :=
  [.ignore, .customToken, .freeText]

def name : SegmentAction → String
  | .ignore => "IGNORE"
  | .customToken => "CUSTOM_TOKEN"
  | .freeText => "FREE_TEXT"

def named? (s : String) : Option SegmentAction :=
  all.find? (·.name == s)

/-- The type and confidence of a token after a decision to keep it. -/
def retyped? : SegmentAction → Option (TokenType × Float)
  | .ignore => none
  | .customToken => some (.trailing, 0.8)
  | .freeText => some (.unknown, 0.9)

end SegmentAction

/-- An operator's decision on a segment value. -/
structure SegmentLabel where
  value : String
  action : SegmentAction
  customLabel : Option String := none
  deriving Repr, DecidableEq

/-- What is done with decisions. -/
inductive LabelStep
  | set (l : SegmentLabel)
  | remove (value : String)
  | clear
  deriving Repr, DecidableEq

/-- Decisions by lowercase value, in ascending order of these values. -/
structure LabelStore where
  entries : List (String × SegmentLabel) := []
  deriving Repr, DecidableEq

namespace LabelStore

/-- Entries with one more, which replaces the entry of the same key. -/
def insertEntry (key : String) (l : SegmentLabel) :
    List (String × SegmentLabel) → List (String × SegmentLabel)
  | [] => [(key, l)]
  | (k, l') :: rest =>
    if key < k then (key, l) :: (k, l') :: rest
    else if key = k then (key, l) :: rest
    else (k, l') :: insertEntry key l rest

/-- The store with a decision, which replaces an earlier one on the same value. -/
def set (s : LabelStore) (l : SegmentLabel) : LabelStore :=
  ⟨insertEntry (lowercase l.value) l s.entries⟩

/-- The decisions of a list; of two on one value the later counts. -/
def ofList (labels : List SegmentLabel) : LabelStore :=
  labels.foldl set {}

def get? (s : LabelStore) (value : String) : Option SegmentLabel :=
  s.entries.lookup (lowercase value)

/-- The decision under a key, and the entries that are left without it. -/
def takeEntry (key : String) :
    List (String × SegmentLabel) → Option SegmentLabel × List (String × SegmentLabel)
  | [] => (none, [])
  | (k, l) :: rest =>
    if k = key then (some l, rest)
    else
      let (taken, left) := takeEntry key rest
      (taken, (k, l) :: left)

/-- The decision on a value, and the store that is left without it. -/
def take (s : LabelStore) (value : String) : Option SegmentLabel × LabelStore :=
  let (taken, left) := takeEntry (lowercase value) s.entries
  (taken, ⟨left⟩)

def remove (s : LabelStore) (value : String) : LabelStore :=
  (s.take value).2

/-- All decisions, in ascending order of the lowercase values. -/
def labels (s : LabelStore) : List SegmentLabel :=
  s.entries.map (·.2)

def step (s : LabelStore) : LabelStep → LabelStore
  | .set l => s.set l
  | .remove value => s.remove value
  | .clear => {}

def run (s : LabelStore) (steps : List LabelStep) : LabelStore :=
  steps.foldl step s

/-- The values of unknown type without a decision, each as it occurs first in any case. -/
def undecided (s : LabelStore) (tokens : List Token) : List String :=
  let left := tokens.filter fun t => t.type = .unknown && (s.get? t.value).isNone
  distinctOn lowercase (left.map (·.value))

/-- The token after the decision on its value, if it is not left out. -/
def decided? (s : LabelStore) (t : Token) : Option Token :=
  match s.get? t.value with
  | none => some t
  | some l => l.action.retyped?.map fun (type, confidence) => t.suggest type confidence

/-- The tokens after the decisions, with new positions from zero. -/
def apply (s : LabelStore) (tokens : List Token) : List Token :=
  (tokens.filterMap s.decided?).mapIdx fun i t => t.moveTo i

end LabelStore

/-- The lowercase values of unknown type, by whether there is a decision on them. -/
structure SegmentSummary where
  labeled : List String
  unlabeled : List String
  deriving Repr, DecidableEq

namespace SegmentSummary

/-- The values of unknown type among tokens, in lower case and ascending order. -/
def unknownValues (tokens : List Token) : List String :=
  ascending ((tokens.filter (·.type = .unknown)).map (lowercase ·.value))

/-- The summary of token lists under the decisions of a store. -/
def of (s : LabelStore) (a : TokenAnalysis) : SegmentSummary :=
  let values := unknownValues a.tokens
  let decided (v : String) : Bool := (s.entries.lookup v).isSome
  ⟨values.filter decided, values.filter (!decided ·)⟩

def pending (s : SegmentSummary) : Nat :=
  s.unlabeled.length

def isComplete (s : SegmentSummary) : Bool :=
  s.unlabeled.isEmpty

end SegmentSummary

end PhotoGrouping
