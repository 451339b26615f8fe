import RecordFilter.Unicode.Derived

/-! The characters of words, in the sense of the Unicode rules for patterns. -/

namespace RecordFilter.Unicode

/-- The characters of words: letters, marks, digits, connectors and joiners. -/
def wordSet : CodeSet :=
  CodeSet.ofRanges
    (Derived.alphabetic ++ Category.collected ["mn", "mc", "me", "nd", "pc"] ++
      Binary.plain "joincontrol")

/-- The characters with the White_Space property. -/
def blankSet : CodeSet :=
  Binary.plain "whitespace"

/-- The ASCII characters of words. -/
def isAsciiWord (char : Char) : Bool :=
  char.isAlphanum || char == '_'

/-- The character may stand in a word; the ASCII characters are settled without the table. -/
def isWord (char : Char) : Bool :=
  if char.toNat < 0x80 then isAsciiWord char else wordSet.contains char.toNat

/-- The character is alphabetic. -/
def isAlphabetic (char : Char) : Bool :=
  if char.toNat < 0x80 then char.isAlpha else Derived.alphabetic.contains char.toNat

/-- The character is alphabetic or has a value as a number. -/
def isAlphanumeric (char : Char) : Bool :=
  if char.toNat < 0x80 then char.isAlphanum
  else isAlphabetic char || (Category.collected ["nd", "nl", "no"]).contains char.toNat

end RecordFilter.Unicode
