namespace PhotoGrouping.Regex

/-- Why a text is no pattern. -/
inductive ParseError
  | invalidClassMember
  | reversedRange
  | rangeOfClass
  | unclosedClass
  | invalidDecimal
  | emptyHex
  | noSuchCharacter
  | invalidHexDigit
  | unfinishedEscape
  | unknownEscape
  | danglingNegation
  | repeatedFlag
  | repeatedNegation
  | unfinishedFlags
  | unknownFlag
  | repeatedGroupName
  | emptyGroupName
  | invalidGroupName
  | unfinishedGroupName
  | unclosedGroup
  | unopenedGroup
  | tooDeep
  | reversedCount
  | emptyCount
  | unclosedCount
  | interruptedCount
  | nothingToRepeat
  | unclosedWordEdge
  | interruptedWordEdge
  | unknownWordEdge
  | unfinishedWordEdge
  | invalidProperty
  | unsupportedBackreference
  | unsupportedLookAround
  | unicodeNotAllowed
  | halfCharacters
  | unknownProperty
  | unknownPropertyValue
  | tooLarge
  deriving Repr, DecidableEq

namespace ParseError

def cause : ParseError → String
  | .invalidClassMember => "invalid escape sequence found in character class"
  | .reversedRange => "invalid character class range, the start must be <= the end"
  | .rangeOfClass => "invalid range boundary, must be a literal"
  | .unclosedClass => "unclosed character class"
  | .invalidDecimal => "decimal literal invalid"
  | .emptyHex => "hexadecimal literal empty"
  | .noSuchCharacter => "hexadecimal literal is not a Unicode scalar value"
  | .invalidHexDigit => "invalid hexadecimal digit"
  | .unfinishedEscape => "incomplete escape sequence, reached end of pattern prematurely"
  | .unknownEscape => "unrecognized escape sequence"
  | .danglingNegation => "dangling flag negation operator"
  | .repeatedFlag => "duplicate flag"
  | .repeatedNegation => "flag negation operator repeated"
  | .unfinishedFlags => "expected flag but got end of regex"
  | .unknownFlag => "unrecognized flag"
  | .repeatedGroupName => "duplicate capture group name"
  | .emptyGroupName => "empty capture group name"
  | .invalidGroupName => "invalid capture group character"
  | .unfinishedGroupName => "unclosed capture group name"
  | .unclosedGroup => "unclosed group"
  | .unopenedGroup => "unopened group"
  | .tooDeep => "exceed the maximum number of nested parentheses/brackets (250)"
  | .reversedCount => "invalid repetition count range, the start must be <= the end"
  | .emptyCount => "repetition quantifier expects a valid decimal"
  | .unclosedCount | .interruptedCount => "unclosed counted repetition"
  | .nothingToRepeat => "repetition operator missing expression"
  | .unclosedWordEdge | .interruptedWordEdge =>
    "special word boundary assertion is either unclosed or contains an invalid character"
  | .unknownWordEdge =>
    "unrecognized special word boundary assertion, valid choices are: start, end, start-half or " ++
    "end-half"
  | .unfinishedWordEdge =>
    "found either the beginning of a special word boundary or a bounded repetition on a \\b with " ++
    "an opening brace, but no closing brace"
  | .invalidProperty => "invalid Unicode character class"
  | .unsupportedBackreference => "backreferences are not supported"
  | .unsupportedLookAround =>
    "look-around, including look-ahead and look-behind, is not supported"
  | .unicodeNotAllowed => "Unicode not allowed here"
  | .halfCharacters => "pattern can match invalid UTF-8"
  | .unknownProperty => "Unicode property not found"
  | .unknownPropertyValue => "Unicode property value not found"
  | .tooLarge => "Compiled regex exceeds size limit of 10485760 bytes."

/-- The report on a pattern text, without the excerpt of it that shows the place. -/
def message : ParseError → String
  | .tooLarge => cause .tooLarge
  | e => "regex parse error: " ++ e.cause

end ParseError

end PhotoGrouping.Regex
