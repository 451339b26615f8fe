import RecordFilter.Unicode.Binary
import RecordFilter.Unicode.Category

/-! Properties that follow from the category of a character and from its plainer properties. -/

namespace RecordFilter.Unicode.Derived

/-- The characters of small letters. -/
def lowercase : CodeSet :=
  CodeSet.union (Category.plain "ll") (Binary.plain "otherlowercase")

/-- The characters of capital letters. -/
def uppercase : CodeSet :=
  CodeSet.union (Category.plain "lu") (Binary.plain "otheruppercase")

/-- The letters that have a case. -/
def cased : CodeSet :=
  CodeSet.ofRanges (lowercase ++ uppercase ++ Category.plain "lt")

/-- The characters of alphabets and the like. -/
def alphabetic : CodeSet :=
  CodeSet.ofRanges
    (lowercase ++ uppercase ++ Category.collected ["lt", "lm", "lo", "nl"] ++
      Binary.plain "otheralphabetic")

/-- The marks inside words, from apostrophes to points between letters. -/
def wordInner : CodeSet :=
  [(0x27, 0x27), (0x2E, 0x2E), (0x3A, 0x3A), (0xB7, 0xB7), (0x387, 0x387), (0x55F, 0x55F),
    (0x5F4, 0x5F4), (0x2018, 0x2019), (0x2024, 0x2024), (0x2027, 0x2027), (0xFE13, 0xFE13),
    (0xFE52, 0xFE52), (0xFE55, 0xFE55), (0xFF07, 0xFF07), (0xFF0E, 0xFF0E), (0xFF1A, 0xFF1A)]

/-- The characters that are passed over in looking for the case of what is around them. -/
def caseIgnorable : CodeSet :=
  CodeSet.ofRanges (Category.collected ["mn", "me", "cf", "lm", "sk"] ++ wordInner)

/-- The characters that some change of case changes. -/
def changesWhenCasemapped : CodeSet :=
  CodeSet.ofRanges
    (Binary.plain "cwl" ++ Binary.plain "cwu" ++ Binary.plain "cwt")

/-- The characters of mathematics. -/
def math : CodeSet :=
  CodeSet.union (Category.plain "sm") (Binary.plain "othermath")

/-- The characters that show nothing where they are not supported. -/
def defaultIgnorable : CodeSet :=
  -- Blanks, annotations, hieroglyphic joiners and marks before numbers are always shown.
  CodeSet.difference
    (CodeSet.ofRanges
      (Binary.plain "otherdefaultignorablecodepoint" ++ Category.plain "cf" ++
        Binary.plain "variationselector"))
    (CodeSet.ofRanges
      (Binary.plain "whitespace" ++ [(0xFFF9, 0xFFFB), (0x13430, 0x13440)] ++
        Binary.plain "prependedconcatenationmark"))

/-- The characters that extend the one before them. -/
def graphemeExtend : CodeSet :=
  CodeSet.ofRanges (Category.collected ["mn", "me"] ++ Binary.plain "othergraphemeextend")

/-- The characters that stand on their own. -/
def graphemeBase : CodeSet :=
  CodeSet.complement lastCode
    (CodeSet.union (Category.collected ["cc", "cf", "cs", "co", "cn", "zl", "zp"]) graphemeExtend)

/-- The characters that the notation of patterns is made of. -/
def patternNotation : CodeSet :=
  CodeSet.union (Binary.plain "patternsyntax") (Binary.plain "patternwhitespace")

/-- The characters that may begin a name. -/
def idStart : CodeSet :=
  CodeSet.difference
    (CodeSet.union (Category.collected ["lu", "ll", "lt", "lm", "lo", "nl"])
      (Binary.plain "otheridstart"))
    patternNotation

/-- The characters that may stand in a name. -/
def idContinue : CodeSet :=
  CodeSet.difference
    (CodeSet.ofRanges
      (idStart ++ Category.collected ["mn", "mc", "nd", "pc"] ++ Binary.plain "otheridcontinue"))
    patternNotation

/-- The characters of names whose compatibility forms are no longer names. -/
def unstableContinue : CodeSet :=
  [(0x37A, 0x37A), (0x309B, 0x309C), (0xFC5E, 0xFC63), (0xFDFA, 0xFDFB), (0xFE70, 0xFE70),
    (0xFE72, 0xFE72), (0xFE74, 0xFE74), (0xFE76, 0xFE76), (0xFE78, 0xFE78), (0xFE7A, 0xFE7A),
    (0xFE7C, 0xFE7C), (0xFE7E, 0xFE7E)]

/-- The characters at the start of names whose compatibility forms may not begin one. -/
def unstableStart : CodeSet :=
  CodeSet.union unstableContinue [(0xE33, 0xE33), (0xEB3, 0xEB3), (0xFF9E, 0xFF9F)]

/-- The characters with a derived property of a name, in small letters without separators. -/
def find? : String → Option CodeSet
  | "alphabetic" | "alpha" => some alphabetic
  | "lowercase" | "lower" => some lowercase
  | "uppercase" | "upper" => some uppercase
  | "cased" => some cased
  | "caseignorable" | "ci" => some caseIgnorable
  | "changeswhencasemapped" | "cwcm" => some changesWhenCasemapped
  | "math" => some math
  | "defaultignorablecodepoint" | "di" => some defaultIgnorable
  | "graphemeextend" | "grext" => some graphemeExtend
  | "graphemebase" | "grbase" => some graphemeBase
  | "idstart" | "ids" => some idStart
  | "idcontinue" | "idc" => some idContinue
  | "xidstart" | "xids" => some (CodeSet.difference idStart unstableStart)
  | "xidcontinue" | "xidc" => some (CodeSet.difference idContinue unstableContinue)
  | _ => none

end RecordFilter.Unicode.Derived
