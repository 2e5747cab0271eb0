import PhotoGrouping.Text.Blank
import PhotoGrouping.Text.Casing

namespace PhotoGrouping

open Text

/-- The role of an image within the group of one vehicle. -/
inductive Role
  | front
  | rear
  | overview
  deriving Repr, DecidableEq

namespace Role

/-- All roles, in the order in which they are listed. -/
def all : List Role :=
  [.front, .rear, .overview]

/-- All roles, in the order in which they claim files. -/
def precedence : List Role :=
  [.overview, .front, .rear]

def name : Role → String
  | .front => "FRONT"
  | .rear => "REAR"
  | .overview => "OVERVIEW"

def named? (s : String) : Option Role :=
  all.find? (·.name == s)

/-- The role that a text names, without regard to case and white space around it. -/
def parse? (s : String) : Option Role :=
  named? (String.ofList ((trimmed s.toList).map Char.toUpper))

def synonyms : Role → List String
  | .front => ["front", "f", "fr", "forward"]
  | .rear => ["rear", "r", "rr", "back", "behind"]
  | .overview => ["overview", "ov", "ovr", "ovw", "scene", "full"]

/-- The role that a word in a filename names, without regard to case. -/
def ofSynonym? (word : String) : Option Role :=
  let lower := lowercase word
  all.find? (·.synonyms.contains lower)

end Role

end PhotoGrouping
