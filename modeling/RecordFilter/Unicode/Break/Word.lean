import RecordFilter.Unicode.Derived
import RecordFilter.Unicode.Script

/-! The parts that characters play in finding the limits of words. -/

namespace RecordFilter.Unicode.Break.Word

/-- The characters of several scripts. -/
def ofScripts (names : List String) : CodeSet :=
  CodeSet.ofRanges (names.flatMap fun name => (Script.find? name).getD [])

/-- The marks and modifiers that belong to the character before them. -/
def extending : CodeSet :=
  CodeSet.ofRanges
    (Derived.graphemeExtend ++ Category.plain "mc" ++ Binary.plain "emojimodifier")

/-- The marks written before numbers, which count as digits. -/
def numberMarks : CodeSet :=
  -- The mark of abbreviations stands before letters instead.
  CodeSet.difference (Binary.plain "prependedconcatenationmark") [(0x70F, 0x70F)]

/-- The characters of numbers. -/
def numeric : CodeSet :=
  CodeSet.ofRanges
    (Category.plain "nd" ++ numberMarks ++ [(0x66B, 0x66B), (0x19DA, 0x19DA)])

/-- The letters of the Hebrew alphabet. -/
def hebrewLetters : CodeSet :=
  CodeSet.intersection (ofScripts ["hebr"]) (Category.plain "lo")

/-- The letters of the angular Japanese syllabary, with the marks shared by both syllabaries. -/
def katakana : CodeSet :=
  CodeSet.union (ofScripts ["kana"])
    [(0x3031, 0x3035), (0x309B, 0x309C), (0x30A0, 0x30A0), (0x30FC, 0x30FC), (0xFF70, 0xFF70)]

/-- The characters that count as letters of words though they are not alphabetic. -/
def letterLike : CodeSet :=
  [(0x2C2, 0x2C5), (0x2D2, 0x2D7), (0x2DE, 0x2DF), (0x2E5, 0x2EB), (0x2ED, 0x2ED), (0x2EF, 0x2FF),
    (0x55A, 0x55C), (0x55E, 0x55E), (0x58A, 0x58A), (0x5F3, 0x5F3), (0x70F, 0x70F),
    (0xA708, 0xA716), (0xA720, 0xA721), (0xA789, 0xA78A), (0xAB5B, 0xAB5B)]

/-- The letters of words between blanks. -/
def letters : CodeSet :=
  -- Some scripts are written without blanks, so that their letters do not show the limits of words.
  let apart := CodeSet.ofRanges
    (Binary.plain "ideographic" ++ katakana ++ extending ++ hebrewLetters ++
      ofScripts
        ["hira", "thai", "laoo", "mymr", "khmr", "tale", "talu", "lana", "tavt", "ahom"])
  CodeSet.union (CodeSet.difference Derived.alphabetic apart) letterLike

/-- The characters that format others. -/
def formats : CodeSet :=
  CodeSet.difference (Category.plain "cf")
    (CodeSet.ofRanges
      ([(0x200B, 0x200D)] ++ Binary.plain "prependedconcatenationmark" ++ extending))

/-- The marks that may stand between letters. -/
def betweenLetters : CodeSet :=
  [(0x3A, 0x3A), (0xB7, 0xB7), (0x387, 0x387), (0x55F, 0x55F), (0x5F4, 0x5F4), (0x2027, 0x2027),
    (0xFE13, 0xFE13), (0xFE55, 0xFE55), (0xFF1A, 0xFF1A)]

/-- The marks that may stand between digits. -/
def betweenDigits : CodeSet :=
  [(0x2C, 0x2C), (0x3B, 0x3B), (0x37E, 0x37E), (0x589, 0x589), (0x60C, 0x60D), (0x66C, 0x66C),
    (0x7F8, 0x7F8), (0x2044, 0x2044), (0xFE50, 0xFE50), (0xFE54, 0xFE54), (0xFF0C, 0xFF0C),
    (0xFF1B, 0xFF1B)]

/-- The marks that may stand between letters and between digits. -/
def betweenBoth : CodeSet :=
  [(0x2E, 0x2E), (0x2018, 0x2019), (0x2024, 0x2024), (0xFE52, 0xFE52), (0xFF07, 0xFF07),
    (0xFF0E, 0xFF0E)]

/-- The characters that connect the parts of a word. -/
def connectors : CodeSet :=
  [(0x5F, 0x5F), (0x202F, 0x202F), (0x203F, 0x2040), (0x2054, 0x2054), (0xFE33, 0xFE34),
    (0xFE4D, 0xFE4F), (0xFF3F, 0xFF3F)]

/-- The blanks of which several in a row are kept together. -/
def blanks : CodeSet :=
  [(0x20, 0x20), (0x1680, 0x1680), (0x2000, 0x2006), (0x2008, 0x200A), (0x205F, 0x205F),
    (0x3000, 0x3000)]

/-- The characters that play a part in words, by its name in small letters without separators. -/
def find? : String → Option CodeSet
  | "le" | "aletter" => some letters
  | "cr" => some [(0x0D, 0x0D)]
  | "dq" | "doublequote" => some [(0x22, 0x22)]
  | "extend" => some extending
  | "ex" | "extendnumlet" => some connectors
  | "fo" | "format" => some formats
  | "hl" | "hebrewletter" => some hebrewLetters
  | "ka" | "katakana" => some katakana
  | "lf" => some [(0x0A, 0x0A)]
  | "ml" | "midletter" => some betweenLetters
  | "mn" | "midnum" => some betweenDigits
  | "mb" | "midnumlet" => some betweenBoth
  | "nl" | "newline" => some [(0x0B, 0x0C), (0x85, 0x85), (0x2028, 0x2029)]
  | "nu" | "numeric" => some numeric
  | "ri" | "regionalindicator" => some (Binary.plain "regionalindicator")
  | "sq" | "singlequote" => some [(0x27, 0x27)]
  | "wsegspace" => some blanks
  | "zwj" => some [(0x200D, 0x200D)]
  | _ => none

end RecordFilter.Unicode.Break.Word
