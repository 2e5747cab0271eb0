import PhotoGrouping.Text.Category

namespace PhotoGrouping.Text

/-- Code points that are alphabetic without being letters or letter numbers. -/
def otherAlphabeticSpans : List Span := [
  ⟨0x0345, 0x0345, 1⟩, ⟨0x0363, 0x036F, 1⟩, ⟨0x05B0, 0x05BD, 1⟩, ⟨0x05BF, 0x05BF, 1⟩,
  ⟨0x05C1, 0x05C2, 1⟩, ⟨0x05C4, 0x05C5, 1⟩, ⟨0x05C7, 0x05C7, 1⟩, ⟨0x0610, 0x061A, 1⟩,
  ⟨0x064B, 0x0657, 1⟩, ⟨0x0659, 0x065F, 1⟩, ⟨0x0670, 0x0670, 1⟩, ⟨0x06D6, 0x06DC, 1⟩,
  ⟨0x06E1, 0x06E4, 1⟩, ⟨0x06E7, 0x06E8, 1⟩, ⟨0x06ED, 0x06ED, 1⟩, ⟨0x0711, 0x0711, 1⟩,
  ⟨0x0730, 0x073F, 1⟩, ⟨0x07A6, 0x07B0, 1⟩, ⟨0x0816, 0x0817, 1⟩, ⟨0x081B, 0x0823, 1⟩,
  ⟨0x0825, 0x0827, 1⟩, ⟨0x0829, 0x082C, 1⟩, ⟨0x0897, 0x0897, 1⟩, ⟨0x08D4, 0x08DF, 1⟩,
  ⟨0x08E3, 0x08E9, 1⟩, ⟨0x08F0, 0x0903, 1⟩, ⟨0x093A, 0x093B, 1⟩, ⟨0x093E, 0x094C, 1⟩,
  ⟨0x094E, 0x094F, 1⟩, ⟨0x0955, 0x0957, 1⟩, ⟨0x0962, 0x0963, 1⟩, ⟨0x0981, 0x0983, 1⟩,
  ⟨0x09BE, 0x09C4, 1⟩, ⟨0x09C7, 0x09C8, 1⟩, ⟨0x09CB, 0x09CC, 1⟩, ⟨0x09D7, 0x09D7, 1⟩,
  ⟨0x09E2, 0x09E3, 1⟩, ⟨0x0A01, 0x0A03, 1⟩, ⟨0x0A3E, 0x0A42, 1⟩, ⟨0x0A47, 0x0A48, 1⟩,
  ⟨0x0A4B, 0x0A4C, 1⟩, ⟨0x0A51, 0x0A51, 1⟩, ⟨0x0A70, 0x0A71, 1⟩, ⟨0x0A75, 0x0A75, 1⟩,
  ⟨0x0A81, 0x0A83, 1⟩, ⟨0x0ABE, 0x0AC5, 1⟩, ⟨0x0AC7, 0x0AC9, 1⟩, ⟨0x0ACB, 0x0ACC, 1⟩,
  ⟨0x0AE2, 0x0AE3, 1⟩, ⟨0x0AFA, 0x0AFC, 1⟩, ⟨0x0B01, 0x0B03, 1⟩, ⟨0x0B3E, 0x0B44, 1⟩,
  ⟨0x0B47, 0x0B48, 1⟩, ⟨0x0B4B, 0x0B4C, 1⟩, ⟨0x0B56, 0x0B57, 1⟩, ⟨0x0B62, 0x0B63, 1⟩,
  ⟨0x0B82, 0x0B82, 1⟩, ⟨0x0BBE, 0x0BC2, 1⟩, ⟨0x0BC6, 0x0BC8, 1⟩, ⟨0x0BCA, 0x0BCC, 1⟩,
  ⟨0x0BD7, 0x0BD7, 1⟩, ⟨0x0C00, 0x0C04, 1⟩, ⟨0x0C3E, 0x0C44, 1⟩, ⟨0x0C46, 0x0C48, 1⟩,
  ⟨0x0C4A, 0x0C4C, 1⟩, ⟨0x0C55, 0x0C56, 1⟩, ⟨0x0C62, 0x0C63, 1⟩, ⟨0x0C81, 0x0C83, 1⟩,
  ⟨0x0CBE, 0x0CC4, 1⟩, ⟨0x0CC6, 0x0CC8, 1⟩, ⟨0x0CCA, 0x0CCC, 1⟩, ⟨0x0CD5, 0x0CD6, 1⟩,
  ⟨0x0CE2, 0x0CE3, 1⟩, ⟨0x0CF3, 0x0CF3, 1⟩, ⟨0x0D00, 0x0D03, 1⟩, ⟨0x0D3E, 0x0D44, 1⟩,
  ⟨0x0D46, 0x0D48, 1⟩, ⟨0x0D4A, 0x0D4C, 1⟩, ⟨0x0D57, 0x0D57, 1⟩, ⟨0x0D62, 0x0D63, 1⟩,
  ⟨0x0D81, 0x0D83, 1⟩, ⟨0x0DCF, 0x0DD4, 1⟩, ⟨0x0DD6, 0x0DD6, 1⟩, ⟨0x0DD8, 0x0DDF, 1⟩,
  ⟨0x0DF2, 0x0DF3, 1⟩, ⟨0x0E31, 0x0E31, 1⟩, ⟨0x0E34, 0x0E3A, 1⟩, ⟨0x0E4D, 0x0E4D, 1⟩,
  ⟨0x0EB1, 0x0EB1, 1⟩, ⟨0x0EB4, 0x0EB9, 1⟩, ⟨0x0EBB, 0x0EBC, 1⟩, ⟨0x0ECD, 0x0ECD, 1⟩,
  ⟨0x0F71, 0x0F83, 1⟩, ⟨0x0F8D, 0x0F97, 1⟩, ⟨0x0F99, 0x0FBC, 1⟩, ⟨0x102B, 0x1036, 1⟩,
  ⟨0x1038, 0x1038, 1⟩, ⟨0x103B, 0x103E, 1⟩, ⟨0x1056, 0x1059, 1⟩, ⟨0x105E, 0x1060, 1⟩,
  ⟨0x1062, 0x1064, 1⟩, ⟨0x1067, 0x106D, 1⟩, ⟨0x1071, 0x1074, 1⟩, ⟨0x1082, 0x108D, 1⟩,
  ⟨0x108F, 0x108F, 1⟩, ⟨0x109A, 0x109D, 1⟩, ⟨0x1712, 0x1713, 1⟩, ⟨0x1732, 0x1733, 1⟩,
  ⟨0x1752, 0x1753, 1⟩, ⟨0x1772, 0x1773, 1⟩, ⟨0x17B6, 0x17C8, 1⟩, ⟨0x1885, 0x1886, 1⟩,
  ⟨0x18A9, 0x18A9, 1⟩, ⟨0x1920, 0x192B, 1⟩, ⟨0x1930, 0x1938, 1⟩, ⟨0x1A17, 0x1A1B, 1⟩,
  ⟨0x1A55, 0x1A5E, 1⟩, ⟨0x1A61, 0x1A74, 1⟩, ⟨0x1ABF, 0x1AC0, 1⟩, ⟨0x1ACC, 0x1ACE, 1⟩,
  ⟨0x1B00, 0x1B04, 1⟩, ⟨0x1B35, 0x1B43, 1⟩, ⟨0x1B80, 0x1B82, 1⟩, ⟨0x1BA1, 0x1BA9, 1⟩,
  ⟨0x1BAC, 0x1BAD, 1⟩, ⟨0x1BE7, 0x1BF1, 1⟩, ⟨0x1C24, 0x1C36, 1⟩, ⟨0x1DD3, 0x1DF4, 1⟩,
  ⟨0x24B6, 0x24E9, 1⟩, ⟨0x2DE0, 0x2DFF, 1⟩, ⟨0xA674, 0xA67B, 1⟩, ⟨0xA69E, 0xA69F, 1⟩,
  ⟨0xA802, 0xA802, 1⟩, ⟨0xA80B, 0xA80B, 1⟩, ⟨0xA823, 0xA827, 1⟩, ⟨0xA880, 0xA881, 1⟩,
  ⟨0xA8B4, 0xA8C3, 1⟩, ⟨0xA8C5, 0xA8C5, 1⟩, ⟨0xA8FF, 0xA8FF, 1⟩, ⟨0xA926, 0xA92A, 1⟩,
  ⟨0xA947, 0xA952, 1⟩, ⟨0xA980, 0xA983, 1⟩, ⟨0xA9B4, 0xA9BF, 1⟩, ⟨0xA9E5, 0xA9E5, 1⟩,
  ⟨0xAA29, 0xAA36, 1⟩, ⟨0xAA43, 0xAA43, 1⟩, ⟨0xAA4C, 0xAA4D, 1⟩, ⟨0xAA7B, 0xAA7D, 1⟩,
  ⟨0xAAB0, 0xAAB0, 1⟩, ⟨0xAAB2, 0xAAB4, 1⟩, ⟨0xAAB7, 0xAAB8, 1⟩, ⟨0xAABE, 0xAABE, 1⟩,
  ⟨0xAAEB, 0xAAEF, 1⟩, ⟨0xAAF5, 0xAAF5, 1⟩, ⟨0xABE3, 0xABEA, 1⟩, ⟨0xFB1E, 0xFB1E, 1⟩,
  ⟨0x10376, 0x1037A, 1⟩, ⟨0x10A01, 0x10A03, 1⟩, ⟨0x10A05, 0x10A06, 1⟩, ⟨0x10A0C, 0x10A0F, 1⟩,
  ⟨0x10D24, 0x10D27, 1⟩, ⟨0x10D69, 0x10D69, 1⟩, ⟨0x10EAB, 0x10EAC, 1⟩, ⟨0x10EFA, 0x10EFC, 1⟩,
  ⟨0x11000, 0x11002, 1⟩, ⟨0x11038, 0x11045, 1⟩, ⟨0x11073, 0x11074, 1⟩, ⟨0x11080, 0x11082, 1⟩,
  ⟨0x110B0, 0x110B8, 1⟩, ⟨0x110C2, 0x110C2, 1⟩, ⟨0x11100, 0x11102, 1⟩, ⟨0x11127, 0x11132, 1⟩,
  ⟨0x11145, 0x11146, 1⟩, ⟨0x11180, 0x11182, 1⟩, ⟨0x111B3, 0x111BF, 1⟩, ⟨0x111CE, 0x111CF, 1⟩,
  ⟨0x1122C, 0x11234, 1⟩, ⟨0x11237, 0x11237, 1⟩, ⟨0x1123E, 0x1123E, 1⟩, ⟨0x11241, 0x11241, 1⟩,
  ⟨0x112DF, 0x112E8, 1⟩, ⟨0x11300, 0x11303, 1⟩, ⟨0x1133E, 0x11344, 1⟩, ⟨0x11347, 0x11348, 1⟩,
  ⟨0x1134B, 0x1134C, 1⟩, ⟨0x11357, 0x11357, 1⟩, ⟨0x11362, 0x11363, 1⟩, ⟨0x113B8, 0x113C0, 1⟩,
  ⟨0x113C2, 0x113C2, 1⟩, ⟨0x113C5, 0x113C5, 1⟩, ⟨0x113C7, 0x113CA, 1⟩, ⟨0x113CC, 0x113CD, 1⟩,
  ⟨0x11435, 0x11441, 1⟩, ⟨0x11443, 0x11445, 1⟩, ⟨0x114B0, 0x114C1, 1⟩, ⟨0x115AF, 0x115B5, 1⟩,
  ⟨0x115B8, 0x115BE, 1⟩, ⟨0x115DC, 0x115DD, 1⟩, ⟨0x11630, 0x1163E, 1⟩, ⟨0x11640, 0x11640, 1⟩,
  ⟨0x116AB, 0x116B5, 1⟩, ⟨0x1171D, 0x1172A, 1⟩, ⟨0x1182C, 0x11838, 1⟩, ⟨0x11930, 0x11935, 1⟩,
  ⟨0x11937, 0x11938, 1⟩, ⟨0x1193B, 0x1193C, 1⟩, ⟨0x11940, 0x11940, 1⟩, ⟨0x11942, 0x11942, 1⟩,
  ⟨0x119D1, 0x119D7, 1⟩, ⟨0x119DA, 0x119DF, 1⟩, ⟨0x119E4, 0x119E4, 1⟩, ⟨0x11A01, 0x11A0A, 1⟩,
  ⟨0x11A35, 0x11A39, 1⟩, ⟨0x11A3B, 0x11A3E, 1⟩, ⟨0x11A51, 0x11A5B, 1⟩, ⟨0x11A8A, 0x11A97, 1⟩,
  ⟨0x11B60, 0x11B67, 1⟩, ⟨0x11C2F, 0x11C36, 1⟩, ⟨0x11C38, 0x11C3E, 1⟩, ⟨0x11C92, 0x11CA7, 1⟩,
  ⟨0x11CA9, 0x11CB6, 1⟩, ⟨0x11D31, 0x11D36, 1⟩, ⟨0x11D3A, 0x11D3A, 1⟩, ⟨0x11D3C, 0x11D3D, 1⟩,
  ⟨0x11D3F, 0x11D41, 1⟩, ⟨0x11D43, 0x11D43, 1⟩, ⟨0x11D47, 0x11D47, 1⟩, ⟨0x11D8A, 0x11D8E, 1⟩,
  ⟨0x11D90, 0x11D91, 1⟩, ⟨0x11D93, 0x11D96, 1⟩, ⟨0x11EF3, 0x11EF6, 1⟩, ⟨0x11F00, 0x11F01, 1⟩,
  ⟨0x11F03, 0x11F03, 1⟩, ⟨0x11F34, 0x11F3A, 1⟩, ⟨0x11F3E, 0x11F40, 1⟩, ⟨0x1611E, 0x1612E, 1⟩,
  ⟨0x16F4F, 0x16F4F, 1⟩, ⟨0x16F51, 0x16F87, 1⟩, ⟨0x16F8F, 0x16F92, 1⟩, ⟨0x16FF0, 0x16FF1, 1⟩,
  ⟨0x1BC9E, 0x1BC9E, 1⟩, ⟨0x1E000, 0x1E006, 1⟩, ⟨0x1E008, 0x1E018, 1⟩, ⟨0x1E01B, 0x1E021, 1⟩,
  ⟨0x1E023, 0x1E024, 1⟩, ⟨0x1E026, 0x1E02A, 1⟩, ⟨0x1E08F, 0x1E08F, 1⟩, ⟨0x1E6E3, 0x1E6E3, 1⟩,
  ⟨0x1E6E6, 0x1E6E6, 1⟩, ⟨0x1E6EE, 0x1E6EF, 1⟩, ⟨0x1E6F5, 0x1E6F5, 1⟩, ⟨0x1E947, 0x1E947, 1⟩,
  ⟨0x1F130, 0x1F149, 1⟩, ⟨0x1F150, 0x1F169, 1⟩, ⟨0x1F170, 0x1F189, 1⟩]

/-- Code points that are lowercase without being lowercase letters. -/
def otherLowercaseSpans : List Span := [
  ⟨0x00AA, 0x00AA, 1⟩, ⟨0x00BA, 0x00BA, 1⟩, ⟨0x02B0, 0x02B8, 1⟩, ⟨0x02C0, 0x02C1, 1⟩,
  ⟨0x02E0, 0x02E4, 1⟩, ⟨0x0345, 0x0345, 1⟩, ⟨0x037A, 0x037A, 1⟩, ⟨0x10FC, 0x10FC, 1⟩,
  ⟨0x1D2C, 0x1D6A, 1⟩, ⟨0x1D78, 0x1D78, 1⟩, ⟨0x1D9B, 0x1DBF, 1⟩, ⟨0x2071, 0x2071, 1⟩,
  ⟨0x207F, 0x207F, 1⟩, ⟨0x2090, 0x209C, 1⟩, ⟨0x2170, 0x217F, 1⟩, ⟨0x24D0, 0x24E9, 1⟩,
  ⟨0x2C7C, 0x2C7D, 1⟩, ⟨0xA69C, 0xA69D, 1⟩, ⟨0xA770, 0xA770, 1⟩, ⟨0xA7F1, 0xA7F4, 1⟩,
  ⟨0xA7F8, 0xA7F9, 1⟩, ⟨0xAB5C, 0xAB5F, 1⟩, ⟨0xAB69, 0xAB69, 1⟩, ⟨0x10780, 0x10780, 1⟩,
  ⟨0x10783, 0x10785, 1⟩, ⟨0x10787, 0x107B0, 1⟩, ⟨0x107B2, 0x107BA, 1⟩, ⟨0x1E030, 0x1E06D, 1⟩]

/-- Code points that are uppercase without being uppercase letters. -/
def otherUppercaseSpans : List Span := [
  ⟨0x2160, 0x216F, 1⟩, ⟨0x24B6, 0x24CF, 1⟩, ⟨0x1F130, 0x1F149, 1⟩, ⟨0x1F150, 0x1F169, 1⟩,
  ⟨0x1F170, 0x1F189, 1⟩]

/-- Word-internal punctuation that casing looks through. -/
def otherIgnorableSpans : List Span := [
  ⟨0x0027, 0x0027, 1⟩, ⟨0x002E, 0x002E, 1⟩, ⟨0x003A, 0x003A, 1⟩, ⟨0x00B7, 0x00B7, 1⟩,
  ⟨0x0387, 0x0387, 1⟩, ⟨0x055F, 0x055F, 1⟩, ⟨0x05F4, 0x05F4, 1⟩, ⟨0x2018, 0x2019, 1⟩,
  ⟨0x2024, 0x2024, 1⟩, ⟨0x2027, 0x2027, 1⟩, ⟨0xFE13, 0xFE13, 1⟩, ⟨0xFE52, 0xFE52, 1⟩,
  ⟨0xFE55, 0xFE55, 1⟩, ⟨0xFF07, 0xFF07, 1⟩, ⟨0xFF0E, 0xFF0E, 1⟩, ⟨0xFF1A, 0xFF1A, 1⟩]

def isLetter (c : Char) : Bool :=
  inSpans Category.uppercaseLetterSpans c || inSpans Category.lowercaseLetterSpans c ||
  inSpans Category.titlecaseLetterSpans c || inSpans Category.modifierLetterSpans c ||
  inSpans Category.otherLetterSpans c

/-- Whether a character is a combining mark of any kind. -/
def isMark (c : Char) : Bool :=
  inSpans Category.nonspacingMarkSpans c || inSpans Category.spacingMarkSpans c ||
  inSpans Category.enclosingMarkSpans c

/-- Whether a character is a decimal digit of some script. -/
def isDigit (c : Char) : Bool :=
  if c.toNat < 128 then c.isDigit else inSpans Category.decimalNumberSpans c

def isNumeric (c : Char) : Bool :=
  isDigit c || inSpans Category.letterNumberSpans c || inSpans Category.otherNumberSpans c

def isAlphabetic (c : Char) : Bool :=
  if c.toNat < 128 then c.isAlpha
  else isLetter c || inSpans Category.letterNumberSpans c || inSpans otherAlphabeticSpans c

def isAlphanumeric (c : Char) : Bool :=
  isAlphabetic c || isNumeric c

/-- Whether a character belongs to words: alphabetic characters, marks, decimal digits, connecting
punctuation and the joiners. -/
def isWord (c : Char) : Bool :=
  if c.toNat < 128 then c.isAlphanum || c == '_'
  else isAlphabetic c || isMark c || isDigit c ||
    inSpans Category.connectorPunctuationSpans c || c == '\u200c' || c == '\u200d'

def isLowercase (c : Char) : Bool :=
  if c.toNat < 128 then c.isLower
  else inSpans Category.lowercaseLetterSpans c || inSpans otherLowercaseSpans c

def isUppercase (c : Char) : Bool :=
  if c.toNat < 128 then c.isUpper
  else inSpans Category.uppercaseLetterSpans c || inSpans otherUppercaseSpans c

def isCased (c : Char) : Bool :=
  isLowercase c || isUppercase c || inSpans Category.titlecaseLetterSpans c

/-- Whether casing looks through a character to find the letters around it. -/
def isCaseIgnorable (c : Char) : Bool :=
  inSpans Category.nonspacingMarkSpans c || inSpans Category.enclosingMarkSpans c ||
  inSpans Category.formatSpans c || inSpans Category.modifierLetterSpans c ||
  inSpans Category.modifierSymbolSpans c || inSpans otherIgnorableSpans c

end PhotoGrouping.Text
