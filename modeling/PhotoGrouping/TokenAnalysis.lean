import PhotoGrouping.CustomToken
import PhotoGrouping.Filename
import PhotoGrouping.Listing
import PhotoGrouping.Role

namespace PhotoGrouping

open Text Filename

/-- The confidence in each kind of classification. -/
structure Confidences where
  custom : Float := 1.0
  extension : Float := 1.0
  date : Float := 0.9
  cameraSide : Float := 0.85
  leading : Float := 0.8
  groupId : Float := 0.7
  index : Float := 0.6
  unknown : Float := 0.3

def confidences : Confidences := {}

/-- Whether a segment is a date, with dashes or without. -/
def isDate (cs : List Char) : Bool :=
  hasShape yearFirst cs || hasShape yearLast cs || hasShape compact cs

def isIndex (cs : List Char) : Bool :=
  !cs.isEmpty && cs.all isDigit

/-- Whether a segment mixes ASCII letters and digits; one digit may be of another script. -/
def isMixed (cs : List Char) : Bool :=
  let others := cs.filter (!·.isAlphanum)
  cs.any Char.isAlpha &&
    match others with
    | [] => cs.any Char.isDigit
    | [d] => isDigit d
    | _ => false

def isAlphabeticRun (cs : List Char) : Bool :=
  !cs.isEmpty && cs.all Char.isAlpha

/-- The type of a segment that no custom token covers, and the confidence in it; only the first
run of letters can lead a filename. -/
def classifyPlain (leadingSeen : Bool) (segment : List Char) : TokenType × Float :=
  if isDate segment then (.date, confidences.date)
  else if (Role.ofSynonym? (String.ofList segment)).isSome then (.cameraSide, confidences.cameraSide)
  else if isIndex segment then (.index, confidences.index)
  else if isMixed segment then (.groupId, confidences.groupId)
  else if !leadingSeen && isAlphabeticRun segment then (.leading, confidences.leading)
  else (.unknown, confidences.unknown)

def classify (custom : List CustomToken) (leadingSeen : Bool) (segment : List Char) :
    TokenType × Float :=
  match CustomToken.typeOf? custom (String.ofList segment) with
  | some type => (type, confidences.custom)
  | none => classifyPlain leadingSeen segment

def tokensFrom (custom : List CustomToken) : Nat → Bool → List (List Char) → List Token
  | _, _, [] => []
  | position, leadingSeen, segment :: rest =>
    let (type, confidence) := classify custom leadingSeen segment
    Token.make (String.ofList segment) position type confidence ::
      tokensFrom custom (position + 1) (leadingSeen || type = .leading) rest

def tokensOf (custom : List CustomToken) (filename : String) : List Token :=
  let (stem, extension) := splitExtension filename.toList
  let body := tokensFrom custom 0 false (segments stem)
  match extension with
  | none => body
  | some ext =>
    body ++ [Token.make (String.ofList ext) body.length .extension confidences.extension]

/-- The tokens of each of several filenames, in ascending order of the names. -/
abbrev TokenAnalysis := List (String × List Token)

namespace TokenAnalysis

def ofFiles (custom : List CustomToken) (files : List String) : TokenAnalysis :=
  (ascending files).map fun f => (f, tokensOf custom f)

def tokens (a : TokenAnalysis) : List Token :=
  a.flatMap (·.2)

def meanConfidence (a : TokenAnalysis) (type : TokenType) : Option Float :=
  let ofType := a.tokens.filter (·.type = type)
  if ofType.isEmpty then none
  else some ((ofType.map (·.confidence.value)).foldl (· + ·) 0.0 / ofType.length.toFloat)

def typeConfidence (a : TokenAnalysis) : List (TokenType × Float) :=
  TokenType.all.filterMap fun type => (a.meanConfidence type).map (type, ·)

end TokenAnalysis

end PhotoGrouping
