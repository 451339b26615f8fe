import RecordFilter.Unicode.Derived

/-! The parts that characters play in clusters, which readers take for single characters. -/

namespace RecordFilter.Unicode.Break.Cluster

/-- The syllables of the Korean alphabet. -/
def syllables : CodeSet :=
  [(0xAC00, 0xD7A3)]

/-- The Korean syllables without a final consonant, of which every twenty-eighth is one. -/
def openSyllables : CodeSet :=
  (List.range 399).map fun index => (0xAC00 + 28 * index, 0xAC00 + 28 * index)

/-- The characters that belong to the one after them. -/
def prepended : CodeSet :=
  CodeSet.union (Binary.plain "prependedconcatenationmark")
    [(0xD4E, 0xD4E), (0x111C2, 0x111C3), (0x113D1, 0x113D1), (0x1193F, 0x1193F),
      (0x11941, 0x11941), (0x11A3A, 0x11A3A), (0x11A84, 0x11A89), (0x11D46, 0x11D46),
      (0x11F02, 0x11F02)]

/-- The marks and modifiers that belong to the character before them. -/
def extending : CodeSet :=
  CodeSet.union Derived.graphemeExtend (Binary.plain "emojimodifier")

/-- The spacing marks that stand by themselves. -/
def standing : CodeSet :=
  [(0x102B, 0x102C), (0x1038, 0x1038), (0x1062, 0x1064), (0x1067, 0x106D), (0x1083, 0x1083),
    (0x1087, 0x108C), (0x108F, 0x108F), (0x109A, 0x109C), (0x1A61, 0x1A61), (0x1A63, 0x1A64),
    (0xAA7B, 0xAA7B), (0xAA7D, 0xAA7D), (0x11720, 0x11721)]

/-- The spacing marks that belong to the character before them. -/
def spacing : CodeSet :=
  CodeSet.difference
    (CodeSet.union (Category.plain "mc") [(0xE33, 0xE33), (0xEB3, 0xEB3)])
    (CodeSet.union standing extending)

/-- The characters that control others and belong to none. -/
def controls : CodeSet :=
  -- Codes that no character has count if they would show nothing.
  let unseen := CodeSet.intersection (Category.plain "cn") Derived.defaultIgnorable
  CodeSet.difference
    (CodeSet.union (Category.collected ["zl", "zp", "cc", "cf"]) unseen)
    (CodeSet.ofRanges
      ([(0x0A, 0x0A), (0x0D, 0x0D), (0x200C, 0x200D)] ++
        Binary.plain "prependedconcatenationmark" ++ extending))

/-- The characters that play a part in clusters, by its name in small letters without separators. -/
def find? : String → Option CodeSet
  | "cn" | "control" => some controls
  | "cr" => some [(0x0D, 0x0D)]
  | "ex" | "extend" => some extending
  | "l" => some [(0x1100, 0x115F), (0xA960, 0xA97C)]
  | "lf" => some [(0x0A, 0x0A)]
  | "lv" => some openSyllables
  | "lvt" => some (CodeSet.difference syllables openSyllables)
  | "pp" | "prepend" => some prepended
  | "ri" | "regionalindicator" => some (Binary.plain "regionalindicator")
  | "sm" | "spacingmark" => some spacing
  | "t" => some [(0x11A8, 0x11FF), (0xD7CB, 0xD7FB)]
  | "v" => some [(0x1160, 0x11A7), (0xD7B0, 0xD7C6), (0x16D63, 0x16D63), (0x16D67, 0x16D6A)]
  | "zwj" => some [(0x200D, 0x200D)]
  | _ => none

end RecordFilter.Unicode.Break.Cluster
