/-! White space of the Unicode standard, and trimming it from the ends of a text. -/

namespace RecordFilter.Text

/-- The characters with the White_Space property. -/
def isBlank (char : Char) : Bool :=
  -- The property holds of twenty-five characters, most of them in three short runs.
  let code := char.toNat
  (0x09 ≤ code && code ≤ 0x0D) || code == 0x20 || code == 0x85 || code == 0xA0 || code == 0x1680 ||
    (0x2000 ≤ code && code ≤ 0x200A) || code == 0x2028 || code == 0x2029 || code == 0x202F ||
    code == 0x205F || code == 0x3000

/-- The characters from the first one that is not blank. -/
def dropBlank (chars : List Char) : List Char :=
  chars.dropWhile isBlank

/-- The characters between the first and the last one that is not blank. -/
def trimChars (chars : List Char) : List Char :=
  -- Blank characters at the end are those at the start of the reversed list.
  (dropBlank (dropBlank chars).reverse).reverse

/-- The text without blank characters at its ends. -/
def trim (text : String) : String :=
  String.ofList (trimChars text.toList)

/-- Every character is blank, which the empty text satisfies. -/
def allBlank (text : String) : Bool :=
  text.toList.all isBlank

end RecordFilter.Text
