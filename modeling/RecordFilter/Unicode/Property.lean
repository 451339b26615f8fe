import RecordFilter.Unicode.Age
import RecordFilter.Unicode.Break.Cluster
import RecordFilter.Unicode.Break.Sentence
import RecordFilter.Unicode.ScriptExtension

/-! Sets of characters by the names of their properties. -/

namespace RecordFilter.Unicode.Property

/-- The characters of a name that tell it from others, in small letters. -/
def distinctive (chars : List Char) : List Char :=
  (chars.filter fun char =>
    char.toNat < 0x80 && char != ' ' && char != '_' && char != '-').map Char.toLower

/-- A property name in small letters, without separators and without a leading "is". -/
def normalized (name : String) : String :=
  -- Only at the very start is "is" left out, and not where it abbreviates the name of comments.
  match name.toList with
  | first :: second :: rest =>
    if first.toLower = 'i' ∧ second.toLower = 's' then
      if distinctive rest = ['c'] then "isc" else String.ofList (distinctive rest)
    else String.ofList (distinctive (first :: second :: rest))
  | chars => String.ofList (distinctive chars)

/-- The set of a property named alone: a binary property, a category or a script. -/
def single? (name : String) : Option CodeSet :=
  let name := normalized name
  Derived.find? name <|> Binary.find? name <|> Category.find? name <|> Script.find? name

/-- The set of a value of one of the properties that have values. -/
def valued? (property value : String) : Option CodeSet :=
  let value := normalized value
  match normalized property with
  | "gc" | "generalcategory" => Category.find? value
  | "sc" | "script" => Script.find? value
  | "scx" | "scriptextensions" => ScriptExtension.find? value
  | "age" => Age.find? value
  | "gcb" | "graphemeclusterbreak" => Break.Cluster.find? value
  | "wb" | "wordbreak" => Break.Word.find? value
  | "sb" | "sentencebreak" => Break.Sentence.find? value
  | _ => none

end RecordFilter.Unicode.Property
