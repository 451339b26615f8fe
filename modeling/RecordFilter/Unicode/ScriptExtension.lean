import RecordFilter.Unicode.Script

/-! The scripts in which characters are used, beyond the one to which they belong. -/

namespace RecordFilter.Unicode.ScriptExtension

/-- The run lengths of the characters from elsewhere that each script uses, by its first name. -/
def table : List (String × String) := [
  ("adlm",
    "61F 1 20 1 1A0E 1 DF1 1"),
  ("arab",
    "60C 1 E 1 3 1 20 1 A B 1A 1 19DE 1 DF1 1 CEFC 2 5A0 1C"),
  ("armn",
    "308 1"),
  ("avst",
    "B7 1 2D78 2"),
  ("beng",
    "2BC 1 694 2 11 2 136A 1 1 1 2 2 1 1 8 1 8 1 2 1 4 1 2 3 8BF9 1"),
  ("bopo",
    "2C7 1 1 3 D 1 2D27 3 4 A 1 D A 4 2 1 6 1 C3 1 CD49 2 11A 5"),
  ("bugi",
    "A9CF 1"),
  ("buhd",
    "1735 2"),
  ("cari",
    "B7 1 1FA2 1 2 1 DD3 1"),
  ("aghb",
    "304 1 2C 1 2C 1"),
  ("cakm",
    "9E6 A 650 A"),
  ("cher",
    "300 3 1 1 6 2 16 2 B 2"),
  ("copt",
    "B7 1 248 1 3 2 1 1 6C 2 2AA1 1 D4C8 1C"),
  ("cprt",
    "10100 3 4 2D 3 9"),
  ("cpmn",
    "10100 2"),
  ("cyrl",
    "2BC 1 43 3 1 1 1 1 1 1 2 1 5 1 173 2 1971 1 104A 1"),
  ("deva",
    "2BC 1 694 2 11 2 136A 27 1 2 3F6 1 873F A"),
  ("dogr",
    "964 C 9EC0 A"),
  ("dupl",
    "B7 1 24F 2 1 1 18 2 2B17 1 18E63 4"),
  ("elba",
    "B7 1 24D 1"),
  ("ethi",
    "30E 1"),
  ("gara",
    "60C 1 E 1 3 1"),
  ("geor",
    "B7 1 4D1 1 B71 1 F5E 1 DD6 1"),
  ("glag",
    "B7 1 24B 1 1 1 17E 1 2 1 101 1 B71 1 F5E 1 DE8 1 782B 1"),
  ("goth",
    "B7 1 24C 2 2 1 28 1"),
  ("gran",
    "951 2 11 2 280 E 10DC 1 1 2 1E 3 3 2 3F6 1 F24A 1 C94 2 1 1"),
  ("grek",
    "B7 1 248 2 2 1 1 1 1 1 A 1 2E 1 2 1 2E 1 1A4B 2 29B 1"),
  ("gujr",
    "951 2 11 2 9ECA A"),
  ("gong",
    "B7 1 8AC 2"),
  ("guru",
    "951 2 11 2 9ECA A"),
  ("gukh",
    "965 1"),
  ("hani",
    "B7 1 2F38 10 1 3 2 1 1 A 1 D A 4 2 1 6 1 4 4 BB 1 94 10 20 26 9 1 30 28 38 31 F C 33 1 58 19 A
    5 60 1F 7301 8 573D 2 11A 5 D3FA 12 1EDE 2"),
  ("hang",
    "3001 3 4 A 1 D 10 1 6 1 C3 1 CD49 2 11A 5"),
  ("rohg",
    "60C 1 E 1 3 1 20 1 93 1"),
  ("hano",
    "1735 2"),
  ("hebr",
    "307 2"),
  ("hira",
    "3001 3 4 A 1 D 10 6 1 1 4 2 5B 4 3 1 5A 2 CD48 2 11A 5 A 1 2D 2"),
  ("java",
    "A9CF 1"),
  ("kthi",
    "966 A 24C1 1 79FE A"),
  ("knda",
    "951 2 11 2 136A 1 1 2 6 1 17 1 1 1 8B3B 6"),
  ("kana",
    "305 1 1D 1 2CDD 3 4 A 1 D 10 6 1 1 4 2 5B 4 3 1 5A 2 CD48 2 11A 5 A 1 2D 2"),
  ("kali",
    "A92E 1"),
  ("khoj",
    "AE6 A 9D40 A"),
  ("sind",
    "964 2 9ECA A"),
  ("latn",
    "B7 1 204 1 A 1 1 3 1 1 9 1 1 1 26 F 1 2 1 1 F 3 7 2 1 2 26 1 5 1 4 D 115 2 4CA 2 7A8 1 CFC 1
    236 1 C0 1 D26 1 78E8 8 226 1"),
  ("limb",
    "965 1"),
  ("lina",
    "10107 2D"),
  ("linb",
    "10100 3 4 2D 3 9"),
  ("lisu",
    "2BC 1 10 1 2D3C 2"),
  ("lyci",
    "205A 1"),
  ("lydi",
    "B7 1 2D79 1"),
  ("mahj",
    "B7 1 8AC C 9EC0 A"),
  ("mlym",
    "951 2 11 2 1374 1 17 1 8B3D 3"),
  ("mand",
    "640 1"),
  ("mani",
    "640 1"),
  ("gonm",
    "964 2"),
  ("mero",
    "205D 1"),
  ("modi",
    "A830 A"),
  ("mong",
    "1802 2 1 1 829 1 FD1 2 5 4"),
  ("mult",
    "A66 A"),
  ("mymr",
    "A92E 1"),
  ("nand",
    "951 1 12 2 380 A FF9 1 8 1 7 1 8B35 6"),
  ("newa",
    "951 2 1382 1 1 2 9 1 6 1 1 1 1 1"),
  ("nkoo",
    "60C 1 E 1 3 1 F71E 2"),
  ("hung",
    "205A 1 2 1 DD3 1 F 1"),
  ("perm",
    "B7 1 248 1 5 3 A 1 16F 1"),
  ("orkh",
    "205A 1 DD5 1"),
  ("ougr",
    "640 1 104B1 1"),
  ("onao",
    "964 2"),
  ("orya",
    "951 2 11 2 1374 1 17 1"),
  ("osge",
    "301 1 2 1 6 1 4C 1"),
  ("phag",
    "1802 2 1 1 829 1 FD2 1"),
  ("phlp",
    "640 1"),
  ("runr",
    "16EB 3"),
  ("samr",
    "2E31 1"),
  ("shrd",
    "951 1 1385 1 1 1 2 2 2 1 9 1 2 1 8B42 6 2 1"),
  ("shaw",
    "B7 1"),
  ("sinh",
    "964 2 138C 1"),
  ("sogd",
    "640 1"),
  ("sunu",
    "300 2 1 1 9 1 2 1 1C 1 3 1"),
  ("sylo",
    "964 2 80 A"),
  ("syrc",
    "303 2 2 2 1 1 18 3 7 2 1 2 2DA 1 E 2 2 1 20 1 A B 1A 1 1787 1 1 1"),
  ("tglg",
    "1735 2"),
  ("tagb",
    "1735 2"),
  ("tale",
    "300 2 5 2 3 1 D33 A"),
  ("takr",
    "964 2 9ECA A"),
  ("taml",
    "951 2 11 2 1374 1 8C18 1 6A0D 1 1 1 37 2"),
  ("tang",
    "2FF0 10 1EF 1"),
  ("telu",
    "951 2 11 2 136F 2 1 1 1 1 17 1"),
  ("thaa",
    "60C 1 E 2 2 1 40 A F788 1 A 1"),
  ("thai",
    "2BC 1 1A 1 2B 1 2D 1"),
  ("tibt",
    "3008 4"),
  ("tfng",
    "302 1 1 1 1 4 19 1"),
  ("tirh",
    "951 2 11 2 136F 1 C 1 F 1 8B3D A"),
  ("todr",
    "301 1 2 1 2 1 9 1 1 1 4A 1"),
  ("toto",
    "2BC 1"),
  ("tutg",
    "CE6 A 1002 1 1 1 8B3B 6 BB 1"),
  ("yezi",
    "60C 1 E 1 3 1 40 A"),
  ("yiii",
    "3001 2 5 A 2 8 DF 1 CE65 5")]

/-- The characters that some script uses though they do not belong to it. -/
def shared : CodeSet :=
  CodeSet.ofRanges (table.flatMap fun row => CodeSet.ofTable row.2)

/-- The characters that the script of a name uses, in small letters without separators. -/
def find? (name : String) : Option CodeSet := do
  -- What common and inherited characters are used in says more than that they are common.
  let code ← Script.code? name
  let own ← Script.find? name
  if code = "zyyy" ∨ code = "zinh" then return CodeSet.difference own shared
  else return CodeSet.union own (((table.lookup code).map CodeSet.ofTable).getD [])

end RecordFilter.Unicode.ScriptExtension
