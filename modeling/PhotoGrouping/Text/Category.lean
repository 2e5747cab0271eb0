import PhotoGrouping.Text.Category.Letter
import PhotoGrouping.Text.Category.Mark
import PhotoGrouping.Text.Category.Number
import PhotoGrouping.Text.Category.Punctuation
import PhotoGrouping.Text.Category.Symbol

namespace PhotoGrouping.Text

/-- The general category of a code point. -/
inductive Category
  | uppercaseLetter
  | lowercaseLetter
  | titlecaseLetter
  | modifierLetter
  | otherLetter
  | nonspacingMark
  | spacingMark
  | enclosingMark
  | decimalNumber
  | letterNumber
  | otherNumber
  | connectorPunctuation
  | dashPunctuation
  | openPunctuation
  | closePunctuation
  | initialPunctuation
  | finalPunctuation
  | otherPunctuation
  | mathSymbol
  | currencySymbol
  | modifierSymbol
  | otherSymbol
  | spaceSeparator
  | lineSeparator
  | paragraphSeparator
  | control
  | format
  | privateUse
  | surrogate
  | unassigned
  deriving Repr, DecidableEq

namespace Category

def spaceSeparatorSpans : List Span := [
  ⟨0x0020, 0x0020, 1⟩, ⟨0x00A0, 0x00A0, 1⟩, ⟨0x1680, 0x1680, 1⟩, ⟨0x2000, 0x200A, 1⟩,
  ⟨0x202F, 0x202F, 1⟩, ⟨0x205F, 0x205F, 1⟩, ⟨0x3000, 0x3000, 1⟩]

def lineSeparatorSpans : List Span := [
  ⟨0x2028, 0x2028, 1⟩]

def paragraphSeparatorSpans : List Span := [
  ⟨0x2029, 0x2029, 1⟩]

def controlSpans : List Span := [
  ⟨0x0000, 0x001F, 1⟩, ⟨0x007F, 0x009F, 1⟩]

def formatSpans : List Span := [
  ⟨0x00AD, 0x00AD, 1⟩, ⟨0x0600, 0x0605, 1⟩, ⟨0x061C, 0x061C, 1⟩, ⟨0x06DD, 0x06DD, 1⟩,
  ⟨0x070F, 0x070F, 1⟩, ⟨0x0890, 0x0891, 1⟩, ⟨0x08E2, 0x08E2, 1⟩, ⟨0x180E, 0x180E, 1⟩,
  ⟨0x200B, 0x200F, 1⟩, ⟨0x202A, 0x202E, 1⟩, ⟨0x2060, 0x2064, 1⟩, ⟨0x2066, 0x206F, 1⟩,
  ⟨0xFEFF, 0xFEFF, 1⟩, ⟨0xFFF9, 0xFFFB, 1⟩, ⟨0x110BD, 0x110BD, 1⟩, ⟨0x110CD, 0x110CD, 1⟩,
  ⟨0x13430, 0x1343F, 1⟩, ⟨0x1BCA0, 0x1BCA3, 1⟩, ⟨0x1D173, 0x1D17A, 1⟩, ⟨0xE0001, 0xE0001, 1⟩,
  ⟨0xE0020, 0xE007F, 1⟩]

def privateUseSpans : List Span := [
  ⟨0xE000, 0xF8FF, 1⟩, ⟨0xF0000, 0xFFFFD, 1⟩, ⟨0x100000, 0x10FFFD, 1⟩]

/-- The categories that code points are assigned to, surrogates aside. -/
def assigned : List Category := [
  .uppercaseLetter, .lowercaseLetter, .titlecaseLetter, .modifierLetter,
  .otherLetter, .nonspacingMark, .spacingMark, .enclosingMark,
  .decimalNumber, .letterNumber, .otherNumber, .connectorPunctuation,
  .dashPunctuation, .openPunctuation, .closePunctuation, .initialPunctuation,
  .finalPunctuation, .otherPunctuation, .mathSymbol, .currencySymbol,
  .modifierSymbol, .otherSymbol, .spaceSeparator, .lineSeparator,
  .paragraphSeparator, .control, .format, .privateUse]

/-- The code points of a category; surrogates are no characters and the unassigned ones are what is left. -/
def spans : Category → List Span
  | .uppercaseLetter => uppercaseLetterSpans
  | .lowercaseLetter => lowercaseLetterSpans
  | .titlecaseLetter => titlecaseLetterSpans
  | .modifierLetter => modifierLetterSpans
  | .otherLetter => otherLetterSpans
  | .nonspacingMark => nonspacingMarkSpans
  | .spacingMark => spacingMarkSpans
  | .enclosingMark => enclosingMarkSpans
  | .decimalNumber => decimalNumberSpans
  | .letterNumber => letterNumberSpans
  | .otherNumber => otherNumberSpans
  | .connectorPunctuation => connectorPunctuationSpans
  | .dashPunctuation => dashPunctuationSpans
  | .openPunctuation => openPunctuationSpans
  | .closePunctuation => closePunctuationSpans
  | .initialPunctuation => initialPunctuationSpans
  | .finalPunctuation => finalPunctuationSpans
  | .otherPunctuation => otherPunctuationSpans
  | .mathSymbol => mathSymbolSpans
  | .currencySymbol => currencySymbolSpans
  | .modifierSymbol => modifierSymbolSpans
  | .otherSymbol => otherSymbolSpans
  | .spaceSeparator => spaceSeparatorSpans
  | .lineSeparator => lineSeparatorSpans
  | .paragraphSeparator => paragraphSeparatorSpans
  | .control => controlSpans
  | .format => formatSpans
  | .privateUse => privateUseSpans
  | .surrogate => []
  | .unassigned => []

def contains (g : Category) (c : Char) : Bool :=
  match g with
  | .unassigned => !assigned.any fun a => inSpans a.spans c
  | g => inSpans g.spans c

end Category

end PhotoGrouping.Text
