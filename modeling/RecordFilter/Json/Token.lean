import RecordFilter.Numeral.Digits

/-! The tokens of a JSON text. -/

namespace RecordFilter.Json

/-- A number as it is written: its digits before and after the point, and its exponent if it has one. -/
structure NumberToken where
  negative : Bool
  whole : List Char
  places : List Char
  exponent : Option Int
  deriving DecidableEq, Repr

/-- A token; a string is given by the codes of its characters, among which escapes may leave surrogates. -/
inductive Token
  | openBracket
  | closeBracket
  | openBrace
  | closeBrace
  | comma
  | colon
  | null
  | boolean (value : Bool)
  | number (numeral : NumberToken)
  | string (codes : List Nat)
  deriving DecidableEq, Repr

/-- The character that a one-letter escape stands for. -/
def escaped? : Char → Option Char
  | '"' => some '"'
  | '\\' => some '\\'
  | '/' => some '/'
  | 'b' => some '\x08'
  | 'f' => some '\x0c'
  | 'n' => some '\n'
  | 'r' => some '\r'
  | 't' => some '\t'
  | _ => none

/-- The codes of a string after its opening quote, and what follows the closing one. -/
def stringCodes? : List Char → Option (List Nat × List Char)
  -- Control characters have to be escaped.
  | [] => none
  | '"' :: rest => some ([], rest)
  | '\\' :: 'u' :: a :: b :: c :: d :: rest =>
    match Numeral.ofHexDigits? [a, b, c, d] with
    | some code => (stringCodes? rest).map fun (codes, after) => (code :: codes, after)
    | none => none
  | '\\' :: letter :: rest =>
    match escaped? letter with
    | some char => (stringCodes? rest).map fun (codes, after) => (char.toNat :: codes, after)
    | none => none
  | char :: rest =>
    if char.toNat < 0x20 then none
    else (stringCodes? rest).map fun (codes, after) => (char.toNat :: codes, after)

/-- A string takes at least its closing quote. -/
theorem stringCodes?_shorter {chars rest : List Char} {codes : List Nat}
    (found : stringCodes? chars = some (codes, rest)) : rest.length < chars.length := by
  -- Every case consumes a character before it goes on with the rest.
  fun_induction stringCodes? chars generalizing codes rest with
  | case1 => simp at found
  | case2 tail => simp_all
  | case3 a b c d tail code read ih =>
    simp only [Option.map_eq_some_iff, Prod.exists, Prod.mk.injEq] at found
    obtain ⟨inner, after, same, -, rfl⟩ := found
    have := ih same
    simp only [List.length_cons]
    omega
  | case4 => simp at found
  | case5 letter tail notHex char read ih =>
    simp only [Option.map_eq_some_iff, Prod.exists, Prod.mk.injEq] at found
    obtain ⟨inner, after, same, -, rfl⟩ := found
    have := ih same
    simp only [List.length_cons]
    omega
  | case6 => simp at found
  | case7 => simp at found
  | case8 char tail _ _ _ plain ih =>
    simp only [Option.map_eq_some_iff, Prod.exists, Prod.mk.injEq] at found
    obtain ⟨inner, after, same, -, rfl⟩ := found
    have := ih same
    simp only [List.length_cons]
    omega

/-- The digits before the point; a zero among several digits may not come first. -/
def wholeDigits? : List Char → Option (List Char × List Char)
  | '0' :: rest => some (['0'], rest)
  | chars =>
    if (chars.takeWhile Numeral.isDigit).isEmpty then none
    else some (chars.takeWhile Numeral.isDigit, chars.dropWhile Numeral.isDigit)

/-- The digits after the point, of which there is at least one if there is a point. -/
def placeDigits? : List Char → Option (List Char × List Char)
  | '.' :: rest =>
    if (rest.takeWhile Numeral.isDigit).isEmpty then none
    else some (rest.takeWhile Numeral.isDigit, rest.dropWhile Numeral.isDigit)
  | chars => some ([], chars)

/-- The digits of an exponent, and whether a minus sign stands before them. -/
def exponentDigits? (negative : Bool) (chars : List Char) : Option (Option Int × List Char) :=
  if (chars.takeWhile Numeral.isDigit).isEmpty then none
  else
    let value : Int := Numeral.ofDigits (chars.takeWhile Numeral.isDigit)
    some (some (if negative then -value else value), chars.dropWhile Numeral.isDigit)

/-- The exponent of a number, if a mark announces one. -/
def exponent? : List Char → Option (Option Int × List Char)
  | mark :: rest =>
    if mark = 'e' ∨ mark = 'E' then
      match rest with
      | '-' :: after => exponentDigits? true after
      | '+' :: after => exponentDigits? false after
      | after => exponentDigits? false after
    else some (none, mark :: rest)
  | [] => some (none, [])

/-- A number without its sign, and what follows it. -/
def numeral? (negative : Bool) (chars : List Char) : Option (NumberToken × List Char) := do
  let (whole, afterWhole) ← wholeDigits? chars
  let (places, afterPlaces) ← placeDigits? afterWhole
  let (exponent, rest) ← exponent? afterPlaces
  return (⟨negative, whole, places, exponent⟩, rest)

private theorem length_dropWhile_le (keep : Char → Bool) (chars : List Char) :
    (chars.dropWhile keep).length ≤ chars.length :=
  (List.dropWhile_sublist keep).length_le

/-- The digits before a point are not empty. -/
theorem wholeDigits?_shorter {chars whole rest : List Char}
    (found : wholeDigits? chars = some (whole, rest)) : rest.length < chars.length := by
  -- At least one digit is taken.
  unfold wholeDigits? at found
  split at found
  · simp_all
  · split at found
    · simp at found
    · rename_i taken
      simp only [Option.some.injEq, Prod.mk.injEq] at found
      obtain ⟨-, rfl⟩ := found
      cases chars with
      | nil => simp at taken
      | cons char tail =>
        by_cases digit : Numeral.isDigit char
        · simp only [List.dropWhile_cons, digit, if_true, List.length_cons]
          have := length_dropWhile_le Numeral.isDigit tail
          omega
        · simp [digit] at taken

/-- The digits after a point may be missing. -/
theorem placeDigits?_le {chars places rest : List Char}
    (found : placeDigits? chars = some (places, rest)) : rest.length ≤ chars.length := by
  -- Either a point and digits are taken, or nothing is.
  unfold placeDigits? at found
  split at found
  · rename_i tail
    split at found
    · simp at found
    · simp only [Option.some.injEq, Prod.mk.injEq] at found
      obtain ⟨-, rfl⟩ := found
      have := length_dropWhile_le Numeral.isDigit tail
      simp only [List.length_cons]
      omega
  · simp_all

/-- The digits of an exponent give no characters back. -/
theorem exponentDigits?_le {negative : Bool} {chars rest : List Char} {value : Option Int}
    (found : exponentDigits? negative chars = some (value, rest)) : rest.length ≤ chars.length := by
  -- What is left comes after the digits, if there are any.
  unfold exponentDigits? at found
  split at found
  · simp at found
  · simp only [Option.some.injEq, Prod.mk.injEq] at found
    obtain ⟨-, rfl⟩ := found
    exact length_dropWhile_le Numeral.isDigit chars

/-- An exponent may be missing. -/
theorem exponent?_le {chars rest : List Char} {value : Option Int}
    (found : exponent? chars = some (value, rest)) : rest.length ≤ chars.length := by
  -- The mark and the sign only shorten the rest further.
  unfold exponent? at found
  split at found
  · split at found
    · split at found <;> have := exponentDigits?_le found <;> simp_all <;> omega
    · simp_all
  · simp_all

/-- A number takes at least one digit. -/
theorem numeral?_shorter {negative : Bool} {chars rest : List Char} {numeral : NumberToken}
    (found : numeral? negative chars = some (numeral, rest)) : rest.length < chars.length := by
  -- The digits before the point are there in any case, and nothing gives characters back.
  simp only [numeral?, Option.bind_eq_bind, Option.bind_eq_some_iff, Prod.exists, Option.pure_def,
    Option.some.injEq, Prod.mk.injEq] at found
  obtain ⟨whole, afterWhole, wholeFound, places, afterPlaces, placesFound, exponent, after,
    exponentFound, -, rfl⟩ := found
  have := wholeDigits?_shorter wholeFound
  have := placeDigits?_le placesFound
  have := exponent?_le exponentFound
  omega

/-- White space between tokens. -/
def isSpace (char : Char) : Bool :=
  char == ' ' || char == '\n' || char == '\t' || char == '\r'

/-- The token at the start of a text that does not begin with white space. -/
def token? : List Char → Option (Token × List Char)
  | '[' :: rest => some (.openBracket, rest)
  | ']' :: rest => some (.closeBracket, rest)
  | '{' :: rest => some (.openBrace, rest)
  | '}' :: rest => some (.closeBrace, rest)
  | ',' :: rest => some (.comma, rest)
  | ':' :: rest => some (.colon, rest)
  | 'n' :: 'u' :: 'l' :: 'l' :: rest => some (.null, rest)
  | 't' :: 'r' :: 'u' :: 'e' :: rest => some (.boolean true, rest)
  | 'f' :: 'a' :: 'l' :: 's' :: 'e' :: rest => some (.boolean false, rest)
  | '"' :: rest => (stringCodes? rest).map fun (codes, after) => (.string codes, after)
  | '-' :: rest => (numeral? true rest).map fun (numeral, after) => (.number numeral, after)
  | chars => (numeral? false chars).map fun (numeral, after) => (.number numeral, after)

/-- A token takes at least one character. -/
theorem token?_shorter {chars rest : List Char} {token : Token}
    (found : token? chars = some (token, rest)) : rest.length < chars.length := by
  -- Each token takes its own characters, of which there is at least one.
  unfold token? at found
  split at found
  case h_10 =>
    simp only [Option.map_eq_some_iff, Prod.exists, Prod.mk.injEq] at found
    obtain ⟨codes, after, read, -, rfl⟩ := found
    exact Nat.lt_succ_of_lt (stringCodes?_shorter read)
  case h_11 =>
    simp only [Option.map_eq_some_iff, Prod.exists, Prod.mk.injEq] at found
    obtain ⟨numeral, after, read, -, rfl⟩ := found
    exact Nat.lt_succ_of_lt (numeral?_shorter read)
  case h_12 =>
    simp only [Option.map_eq_some_iff, Prod.exists, Prod.mk.injEq] at found
    obtain ⟨numeral, after, read, -, rfl⟩ := found
    exact numeral?_shorter read
  -- The other tokens are fixed characters.
  all_goals
    simp only [Option.some.injEq, Prod.mk.injEq] at found
    obtain ⟨-, rfl⟩ := found
    simp only [List.length_cons]
    omega

/-- The tokens of a text, unless some part of it is none. -/
def tokens? (chars : List Char) : Option (List Token) :=
  -- White space is passed over one character at a time.
  match chars with
  | [] => some []
  | char :: rest =>
    if isSpace char then tokens? rest
    else match _found : token? (char :: rest) with
      | none => none
      | some (token, after) => (tokens? after).map (token :: ·)
termination_by chars.length
decreasing_by
  · simp
  · exact token?_shorter _found

end RecordFilter.Json
