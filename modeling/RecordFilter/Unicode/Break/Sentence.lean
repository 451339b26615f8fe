import RecordFilter.Unicode.Break.Word

/-! The parts that characters play in finding the limits of sentences. -/

namespace RecordFilter.Unicode.Break.Sentence

/-- The marks that belong to the character before them. -/
def extending : CodeSet :=
  CodeSet.ofRanges (Derived.graphemeExtend ++ Category.plain "mc" ++ [(0x200D, 0x200D)])

/-- The small letters; those of Georgian begin sentences like any others. -/
def small : CodeSet :=
  CodeSet.difference Derived.lowercase
    (CodeSet.union Derived.graphemeExtend [(0x10D0, 0x10FA), (0x10FD, 0x10FF)])

/-- The capital letters; those of Georgian are for whole words and not for first letters. -/
def capital : CodeSet :=
  CodeSet.difference (CodeSet.union (Category.plain "lt") Derived.uppercase)
    [(0x1C90, 0x1CBA), (0x1CBD, 0x1CBF)]

/-- The letters without case. -/
def otherLetters : CodeSet :=
  CodeSet.difference (CodeSet.union Derived.alphabetic [(0x5F3, 0x5F3)])
    (CodeSet.ofRanges (small ++ capital ++ extending))

/-- The characters of numbers. -/
def numeric : CodeSet :=
  CodeSet.union Word.numeric [(0x66C, 0x66C)]

/-- The points, which need not end a sentence. -/
def points : CodeSet :=
  [(0x2E, 0x2E), (0x2024, 0x2024), (0xFE52, 0xFE52), (0xFF0E, 0xFF0E)]

/-- The marks that end a sentence. -/
def terminals : CodeSet :=
  CodeSet.difference (Binary.plain "sentenceterminal") points

/-- The quotation marks that are neither opening nor closing ones. -/
def plainQuotes : CodeSet :=
  [(0x22, 0x22), (0x27, 0x27), (0x275B, 0x2760), (0x2E00, 0x2E01), (0x2E06, 0x2E08),
    (0x2E0B, 0x2E0B), (0x1F676, 0x1F678)]

/-- The brackets and quotation marks around sentences. -/
def enclosing : CodeSet :=
  CodeSet.difference (CodeSet.union (Category.collected ["ps", "pe", "pi", "pf"]) plainQuotes)
    terminals

/-- The marks after which a sentence goes on. -/
def continuing : CodeSet :=
  [(0x2C, 0x2D), (0x3A, 0x3B), (0x37E, 0x37E), (0x55D, 0x55D), (0x60C, 0x60D), (0x7F8, 0x7F8),
    (0x1802, 0x1802), (0x1808, 0x1808), (0x2013, 0x2014), (0x3001, 0x3001), (0xFE10, 0xFE11),
    (0xFE13, 0xFE14), (0xFE31, 0xFE32), (0xFE50, 0xFE51), (0xFE54, 0xFE55), (0xFE58, 0xFE58),
    (0xFE63, 0xFE63), (0xFF0C, 0xFF0D), (0xFF1A, 0xFF1B), (0xFF64, 0xFF64)]

/-- The characters that end paragraphs, two of them apart. -/
def separators : CodeSet :=
  [(0x85, 0x85), (0x2028, 0x2029)]

/-- The blanks within paragraphs. -/
def blanks : CodeSet :=
  CodeSet.difference (Binary.plain "whitespace")
    (CodeSet.union separators [(0x0A, 0x0A), (0x0D, 0x0D)])

/-- The characters that format others. -/
def formats : CodeSet :=
  CodeSet.difference (Category.plain "cf")
    (CodeSet.ofRanges ([(0x200C, 0x200D)] ++ Word.numberMarks ++ extending))

/-- The characters that play a part in sentences, by its name in small letters without separators. -/
def find? : String → Option CodeSet
  | "at" | "aterm" => some points
  | "cl" | "close" => some enclosing
  | "cr" => some [(0x0D, 0x0D)]
  | "ex" | "extend" => some extending
  | "fo" | "format" => some formats
  | "lf" => some [(0x0A, 0x0A)]
  | "lo" | "lower" => some small
  | "nu" | "numeric" => some numeric
  | "le" | "oletter" => some otherLetters
  | "sc" | "scontinue" => some continuing
  | "st" | "sterm" => some terminals
  | "se" | "sep" => some separators
  | "sp" => some blanks
  | "up" | "upper" => some capital
  | _ => none

end RecordFilter.Unicode.Break.Sentence
