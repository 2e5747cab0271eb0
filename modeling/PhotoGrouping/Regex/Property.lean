import PhotoGrouping.Text.Alphabet
import PhotoGrouping.Text.Blank
import PhotoGrouping.Text.Script

namespace PhotoGrouping.Regex

open Text

/-- A named set of characters, as in `\p{Greek}`. -/
inductive Property
  | any
  | ascii
  | assigned
  | alphabetic
  | lowercase
  | uppercase
  | cased
  | caseIgnorable
  | blank
  | category (choices : List Category)
  | script (name : String)
  deriving Repr, DecidableEq

namespace Property

def contains (p : Property) (c : Char) : Bool :=
  match p with
  | .any => true
  | .ascii => c.toNat < 128
  | .assigned => !Category.unassigned.contains c
  | .alphabetic => isAlphabetic c
  | .lowercase => isLowercase c
  | .uppercase => isUppercase c
  | .cased => isCased c
  | .caseIgnorable => isCaseIgnorable c
  | .blank => isBlank c
  | .category choices => choices.any (·.contains c)
  | .script name => (Script.spans? name).any (inSpans · c)

/-- A name as it is looked up: without case, spaces, `_`, `-`, characters beyond ASCII and a leading
`is`. -/
def looseName (name : List Char) : String :=
  let plain (cs : List Char) : List Char :=
    (cs.filter fun c => c.toNat < 128 && c != ' ' && c != '_' && c != '-').map Char.toLower
  match name with
  | 'i' :: 's' :: rest | 'I' :: 's' :: rest | 'i' :: 'S' :: rest | 'I' :: 'S' :: rest =>
    let short := plain rest
    if short = ['c'] then "isc" else String.ofList short
  | _ => String.ofList (plain name)

/-- The properties that are no category and no script, by their loose names. -/
def binaryNames : List (String × Property) := [
  ("alphabetic", .alphabetic), ("alpha", .alphabetic), ("lowercase", .lowercase),
  ("lower", .lowercase), ("uppercase", .uppercase), ("upper", .uppercase), ("cased", .cased),
  ("caseignorable", .caseIgnorable), ("ci", .caseIgnorable), ("whitespace", .blank),
  ("wspace", .blank), ("space", .blank)]

/-- The general categories and their groups, by their loose names. -/
def categoryNames : List (String × Property) := [
  ("any", .any), ("assigned", .assigned), ("ascii", .ascii),
  ("l", .category [.uppercaseLetter, .lowercaseLetter, .titlecaseLetter, .modifierLetter, .otherLetter]),
  ("letter", .category [.uppercaseLetter, .lowercaseLetter, .titlecaseLetter, .modifierLetter, .otherLetter]),
  ("lc", .category [.uppercaseLetter, .lowercaseLetter, .titlecaseLetter]),
  ("casedletter", .category [.uppercaseLetter, .lowercaseLetter, .titlecaseLetter]),
  ("lu", .category [.uppercaseLetter]), ("uppercaseletter", .category [.uppercaseLetter]),
  ("ll", .category [.lowercaseLetter]), ("lowercaseletter", .category [.lowercaseLetter]),
  ("lt", .category [.titlecaseLetter]), ("titlecaseletter", .category [.titlecaseLetter]),
  ("lm", .category [.modifierLetter]), ("modifierletter", .category [.modifierLetter]),
  ("lo", .category [.otherLetter]), ("otherletter", .category [.otherLetter]),
  ("m", .category [.nonspacingMark, .spacingMark, .enclosingMark]),
  ("mark", .category [.nonspacingMark, .spacingMark, .enclosingMark]),
  ("combiningmark", .category [.nonspacingMark, .spacingMark, .enclosingMark]),
  ("mn", .category [.nonspacingMark]), ("nonspacingmark", .category [.nonspacingMark]),
  ("mc", .category [.spacingMark]), ("spacingmark", .category [.spacingMark]),
  ("me", .category [.enclosingMark]), ("enclosingmark", .category [.enclosingMark]),
  ("n", .category [.decimalNumber, .letterNumber, .otherNumber]),
  ("number", .category [.decimalNumber, .letterNumber, .otherNumber]),
  ("nd", .category [.decimalNumber]), ("decimalnumber", .category [.decimalNumber]),
  ("digit", .category [.decimalNumber]),
  ("nl", .category [.letterNumber]), ("letternumber", .category [.letterNumber]),
  ("no", .category [.otherNumber]), ("othernumber", .category [.otherNumber]),
  ("p", .category [.connectorPunctuation, .dashPunctuation, .openPunctuation, .closePunctuation,
    .initialPunctuation, .finalPunctuation, .otherPunctuation]),
  ("punctuation", .category [.connectorPunctuation, .dashPunctuation, .openPunctuation,
    .closePunctuation, .initialPunctuation, .finalPunctuation, .otherPunctuation]),
  ("punct", .category [.connectorPunctuation, .dashPunctuation, .openPunctuation,
    .closePunctuation, .initialPunctuation, .finalPunctuation, .otherPunctuation]),
  ("pc", .category [.connectorPunctuation]), ("connectorpunctuation", .category [.connectorPunctuation]),
  ("pd", .category [.dashPunctuation]), ("dashpunctuation", .category [.dashPunctuation]),
  ("ps", .category [.openPunctuation]), ("openpunctuation", .category [.openPunctuation]),
  ("pe", .category [.closePunctuation]), ("closepunctuation", .category [.closePunctuation]),
  ("pi", .category [.initialPunctuation]), ("initialpunctuation", .category [.initialPunctuation]),
  ("pf", .category [.finalPunctuation]), ("finalpunctuation", .category [.finalPunctuation]),
  ("po", .category [.otherPunctuation]), ("otherpunctuation", .category [.otherPunctuation]),
  ("s", .category [.mathSymbol, .currencySymbol, .modifierSymbol, .otherSymbol]),
  ("symbol", .category [.mathSymbol, .currencySymbol, .modifierSymbol, .otherSymbol]),
  ("sm", .category [.mathSymbol]), ("mathsymbol", .category [.mathSymbol]),
  ("sc", .category [.currencySymbol]), ("currencysymbol", .category [.currencySymbol]),
  ("sk", .category [.modifierSymbol]), ("modifiersymbol", .category [.modifierSymbol]),
  ("so", .category [.otherSymbol]), ("othersymbol", .category [.otherSymbol]),
  ("z", .category [.spaceSeparator, .lineSeparator, .paragraphSeparator]),
  ("separator", .category [.spaceSeparator, .lineSeparator, .paragraphSeparator]),
  ("zs", .category [.spaceSeparator]), ("spaceseparator", .category [.spaceSeparator]),
  ("zl", .category [.lineSeparator]), ("lineseparator", .category [.lineSeparator]),
  ("zp", .category [.paragraphSeparator]), ("paragraphseparator", .category [.paragraphSeparator]),
  ("c", .category [.control, .format, .surrogate, .privateUse, .unassigned]),
  ("other", .category [.control, .format, .surrogate, .privateUse, .unassigned]),
  ("cc", .category [.control]), ("control", .category [.control]), ("cntrl", .category [.control]),
  ("cf", .category [.format]), ("format", .category [.format]),
  ("co", .category [.privateUse]), ("privateuse", .category [.privateUse]),
  ("cs", .category [.surrogate]), ("surrogate", .category [.surrogate]),
  ("cn", .category [.unassigned]), ("unassigned", .category [.unassigned])]

def script? (name : String) : Option Property :=
  (Script.spans? name).map fun _ => .script name

/-- The property with a name that stands alone: a binary one, a category or a script. -/
def named? (name : List Char) : Option Property :=
  let name := looseName name
  binaryNames.lookup name <|> categoryNames.lookup name <|> script? name

def valued? (name value : List Char) : Option Property :=
  let value := looseName value
  match looseName name with
  | "generalcategory" | "gc" => categoryNames.lookup value
  | "script" | "sc" => script? value
  | _ => none

def takesValues (name : List Char) : Bool :=
  ["generalcategory", "gc", "script", "sc"].contains (looseName name)

end Property

end PhotoGrouping.Regex
