import RecordFilter.Json.Written
import RecordFilter.Proofs.Json.Quoted
import RecordFilter.Proofs.Number.Shortest

/-! JSON values that are written and read again: only numbers that are not finite are lost. -/

namespace RecordFilter.Json

mutual
/-- What a text keeps of a value: a number that is not finite is written as null. -/
def plain : Json → Json
  | .number (.float value) => if value.isFinite then .number (.float value) else .null
  | .array items => .array (plainItems items)
  | .object members => .object (plainMembers members)
  | json => json
/-- What a text keeps of the items of an array. -/
def plainItems : List Json → List Json
  | [] => []
  | item :: rest => item.plain :: plainItems rest
/-- What a text keeps of the members of an object. -/
def plainMembers : List (String × Json) → List (String × Json)
  | [] => []
  | (name, value) :: rest => (name, value.plain) :: plainMembers rest
end

mutual
/-- How deep arrays and objects nest in a value. -/
def depth : Json → Nat
  | .array items => itemDepth items + 1
  | .object members => memberDepth members + 1
  | _ => 0
/-- How deep arrays and objects nest in the items of an array. -/
def itemDepth : List Json → Nat
  | [] => 0
  | item :: rest => max item.depth (itemDepth rest)
/-- How deep arrays and objects nest in the members of an object. -/
def memberDepth : List (String × Json) → Nat
  | [] => 0
  | (_, value) :: rest => max value.depth (memberDepth rest)
end

mutual
/-- The numbers in a value. -/
def numbers : Json → List Number
  | .number value => [value]
  | .array items => itemNumbers items
  | .object members => memberNumbers members
  | _ => []
/-- The numbers in the items of an array. -/
def itemNumbers : List Json → List Number
  | [] => []
  | item :: rest => item.numbers ++ itemNumbers rest
/-- The numbers in the members of an object. -/
def memberNumbers : List (String × Json) → List Number
  | [] => []
  | (_, value) :: rest => value.numbers ++ memberNumbers rest
end

/-- White space is not the start of a token. -/
theorem isSpace_of_token? {char : Char} {rest after : List Char} {token : Token}
    (found : token? (char :: rest) = some (token, after)) : isSpace char = false := by
  -- No token begins with any of the four white characters.
  by_contra space
  rw [Bool.not_eq_false, isSpace] at space
  simp only [Bool.or_eq_true, beq_iff_eq] at space
  have unread : token? (char :: rest) = none := by
    rcases space with ((rfl | rfl) | rfl) | rfl <;>
      simp [token?, numeral?, wholeDigits?, Numeral.isDigit, Numeral.digit?]
  rw [found] at unread
  cases unread

/-- A text that begins with a token consists of that token and those of what follows it. -/
theorem tokens?_of_token? {chars after : List Char} {token : Token}
    (found : token? chars = some (token, after)) :
    tokens? chars = (tokens? after).map (token :: ·) := by
  -- A token is looked for where no white space stands in front.
  cases chars with
  | nil => simp [token?, numeral?, wholeDigits?] at found
  | cons char rest =>
    rw [tokens?, isSpace_of_token? found, if_neg (by decide)]
    split
    · rename_i unread
      rw [found] at unread
      cases unread
    · rename_i token' after' found'
      rw [found] at found'
      obtain ⟨rfl, rfl⟩ := Prod.mk.inj (Option.some.inj found')
      rfl

/-- A token of one character is followed by the tokens of the rest. -/
theorem tokens?_cons (char : Char) (rest : List Char) (token : Token)
    (single : token? (char :: rest) = some (token, rest)) :
    tokens? (char :: rest) = (tokens? rest).map (token :: ·) :=
  tokens?_of_token? single

/-- Characters that are tokens of one value, which is complete with the last of them. -/
def Spelled (chars : List Char) (written : Written) : Prop :=
  ∃ tokens,
    (∀ rest, Ends rest → tokens? (chars ++ rest) = (tokens? rest).map (tokens ++ ·)) ∧
    ∀ frames, tokens.foldlM Written.step? (frames, .value) = some (frames, .more written)

/-- What is one token and begins a value that it also completes is spelled so. -/
theorem Spelled.of_token? {chars : List Char} {token : Token} {written : Written}
    (found : ∀ rest, Ends rest → token? (chars ++ rest) = some (token, rest))
    (complete : ∀ frames, Written.begin? frames token = some (frames, .more written)) :
    Spelled chars written := by
  -- A single token completes the value at once, whatever frames are open around it.
  refine ⟨[token], fun rest ends => tokens?_of_token? (found rest ends), fun frames => ?_⟩
  simp [Written.step?, complete]

/-- A token begins a value where only a value may stand. -/
theorem step?_value (frames : List Written.Frame) (token : Token) :
    Written.step? (frames, .value) token = Written.begin? frames token := by
  -- The stage of a value passes every token on to its beginning.
  unfold Written.step?
  split <;> simp_all

/-- A token other than a closing bracket begins a value where an array may also end. -/
theorem step?_valueOrEnd {token : Token} (other : token ≠ .closeBracket)
    (frames : List Written.Frame) :
    Written.step? (frames, .valueOrEnd) token = Written.begin? frames token := by
  -- Where a value may begin and the list may end, only a bracket ends it.
  unfold Written.step?
  split <;> simp_all

/-- What completes a value does not begin with a closing bracket, so it may stand where an array may end. -/
theorem foldlM_valueOrEnd {tokens : List Token} {frames after : List Written.Frame}
    {written : Written}
    (complete : tokens.foldlM Written.step? (frames, .value) = some (after, .more written)) :
    tokens.foldlM Written.step? (frames, .valueOrEnd) = some (after, .more written) := by
  -- A closing bracket would not have completed a value, so the first token is none.
  cases tokens with
  | nil => cases complete
  | cons token rest =>
    rw [List.foldlM_cons, step?_value] at complete
    rw [List.foldlM_cons, step?_valueOrEnd, complete]
    rintro rfl
    cases complete

/-- A text that spells a value is read as that value. -/
theorem Spelled.read? {chars : List Char} {written : Written} (spelled : Spelled chars written) :
    Written.read? (String.ofList chars) = some written := by
  -- All tokens are scanned, and building ends with one value and no open frame.
  obtain ⟨tokens, scans, builds⟩ := spelled
  have all := scans [] ends_nil
  rw [List.append_nil, tokens?, Option.map_some, List.append_nil] at all
  rw [Written.read?, String.toList_ofList, all, Option.bind_some, Written.ofTokens?, builds]

/-- Null is spelled as a word. -/
theorem Spelled.null : Spelled Json.null.chars .null :=
  .of_token? (fun _ _ => rfl) fun _ => rfl

/-- A truth value is spelled as a word. -/
theorem Spelled.boolean (value : Bool) : Spelled (Json.boolean value).chars (.boolean value) := by
  cases value <;> exact .of_token? (fun _ _ => rfl) fun _ => rfl

/-- A string is spelled with quotes and escapes. -/
theorem Spelled.string (text : String) :
    Spelled (Json.string text).chars (.string (text.toList.map Char.toNat)) :=
  .of_token? (fun rest _ => token?_quoted text rest) fun _ => rfl

/-- A numeral is spelled by its characters. -/
theorem Spelled.numeral {numeral : NumberToken} (proper : numeral.Proper) :
    Spelled numeral.chars (.number numeral) :=
  .of_token? (fun _ ends => proper.token?_append ends) fun _ => rfl

/-- Characters that are tokens of the items of an array, the closing bracket included. -/
def ItemsSpelled (chars : List Char) (items : List Written) : Prop :=
  ∃ tokens,
    (∀ rest, tokens? (chars ++ rest) = (tokens? rest).map (tokens ++ ·)) ∧
    ∀ before outer, tokens.foldlM Written.step? (.items before :: outer, .value) =
      some (outer, .more (.array (before.reverse ++ items)))

/-- A bracket follows the last item. -/
theorem ItemsSpelled.last {chars : List Char} {written : Written} (item : Spelled chars written) :
    ItemsSpelled (chars ++ [']']) [written] := by
  -- After the last item the bracket closes the frame of the list.
  obtain ⟨tokens, scans, builds⟩ := item
  refine ⟨tokens ++ [.closeBracket], fun rest => ?_, fun before outer => ?_⟩
  · rw [List.append_assoc, List.singleton_append, scans _ (by simp),
      tokens?_cons ']' rest .closeBracket rfl, Option.map_map]
    simp [Function.comp_def]
  · rw [List.foldlM_append, builds]
    simp [Written.step?, Written.follow?]

/-- A comma follows every other item. -/
theorem ItemsSpelled.cons {chars more : List Char} {written : Written} {items : List Written}
    (item : Spelled chars written) (others : ItemsSpelled more items) :
    ItemsSpelled (chars ++ ',' :: more) (written :: items) := by
  -- A comma follows the first item, and the list goes on in the same frame.
  obtain ⟨tokens, scans, builds⟩ := item
  obtain ⟨moreTokens, moreScans, moreBuilds⟩ := others
  refine ⟨tokens ++ .comma :: moreTokens, fun rest => ?_, fun before outer => ?_⟩
  · rw [List.append_assoc, List.cons_append, scans _ (by simp),
      tokens?_cons ',' (more ++ rest) .comma rfl, moreScans, Option.map_map,
      Option.map_map]
    simp [Function.comp_def]
  · rw [List.foldlM_append, builds, Option.bind_eq_bind, Option.bind_some, List.foldlM_cons]
    simp [Written.step?, Written.follow?, moreBuilds]

/-- An array is spelled with brackets around its items. -/
theorem Spelled.array {chars : List Char} {items : List Written} (spelled : ItemsSpelled chars items) :
    Spelled ('[' :: chars) (.array items) := by
  -- The opening bracket opens a frame, which the items fill and close.
  obtain ⟨tokens, scans, builds⟩ := spelled
  refine ⟨.openBracket :: tokens, fun rest _ => ?_, fun frames => ?_⟩
  · rw [List.cons_append, tokens?_cons '[' (chars ++ rest) .openBracket rfl,
      scans, Option.map_map]
    rfl
  · rw [List.foldlM_cons, step?_value, Written.begin?, Option.bind_eq_bind, Option.bind_some,
      foldlM_valueOrEnd (builds [] frames)]
    rfl

/-- An array without items is spelled with its brackets alone. -/
theorem Spelled.array_nil : Spelled ['[', ']'] (.array []) := by
  -- The closing bracket stands where the first item might begin.
  refine ⟨[.openBracket, .closeBracket], fun rest _ => ?_, fun frames => ?_⟩
  · rw [List.cons_append, List.singleton_append, tokens?_cons '[' (']' :: rest) .openBracket rfl,
      tokens?_cons ']' rest .closeBracket rfl, Option.map_map]
    rfl
  · rw [List.foldlM_cons, step?_value]
    rfl

/-- A string is a name where an object may also end. -/
theorem step?_nameOrEnd (frames : List Written.Frame) (codes : List Nat) :
    Written.step? (frames, .nameOrEnd) (.string codes) = Written.named? frames (.string codes) := by
  -- A text where a member may begin is its name.
  unfold Written.step?
  split <;> simp_all

/-- Characters that are tokens of the members of an object from a name on, the closing brace included. -/
def MembersSpelled (chars : List Char) (members : List (List Nat × Written)) : Prop :=
  ∃ codes tokens,
    (∀ rest, tokens? (chars ++ rest) = (tokens? rest).map (.string codes :: tokens ++ ·)) ∧
    ∀ before outer, tokens.foldlM Written.step? (.member before codes :: outer, .colon) =
      some (outer, .more (.object (before.reverse ++ members)))

/-- The token of a name and its colon are followed by those of the value. -/
theorem tokens?_member {name : String} {chars rest : List Char} :
    tokens? (quoted name ++ ':' :: chars ++ rest) =
      (tokens? (chars ++ rest)).map ([.string (name.toList.map Char.toNat), .colon] ++ ·) := by
  -- The name and the colon are one token each, after which the value begins.
  rw [List.append_assoc, tokens?_of_token? (token?_quoted name _), List.cons_append,
    tokens?_cons ':' (chars ++ rest) .colon rfl, Option.map_map]
  rfl

/-- A brace follows the last member. -/
theorem MembersSpelled.last (name : String) {chars : List Char} {written : Written}
    (value : Spelled chars written) :
    MembersSpelled (quoted name ++ ':' :: chars ++ ['}'])
      [(name.toList.map Char.toNat, written)] := by
  -- After the last member the brace closes the frame of the object.
  obtain ⟨tokens, scans, builds⟩ := value
  refine ⟨name.toList.map Char.toNat, .colon :: tokens ++ [.closeBrace], fun rest => ?_, fun before outer => ?_⟩
  · rw [List.append_assoc, tokens?_member, List.singleton_append, scans _ (by simp),
      tokens?_cons '}' rest .closeBrace rfl, Option.map_map, Option.map_map]
    simp [Function.comp_def]
  · rw [List.cons_append, List.foldlM_cons]
    simp [Written.step?, Written.follow?, builds]

/-- A comma follows every other member. -/
theorem MembersSpelled.cons (name : String) {chars more : List Char} {written : Written}
    {members : List (List Nat × Written)} (value : Spelled chars written)
    (others : MembersSpelled more members) :
    MembersSpelled (quoted name ++ ':' :: chars ++ ',' :: more)
      ((name.toList.map Char.toNat, written) :: members) := by
  -- A comma follows the first member, and the next name follows the comma.
  obtain ⟨tokens, scans, builds⟩ := value
  obtain ⟨codes, moreTokens, moreScans, moreBuilds⟩ := others
  refine ⟨name.toList.map Char.toNat, .colon :: tokens ++ .comma :: .string codes :: moreTokens,
    fun rest => ?_, fun before outer => ?_⟩
  · rw [List.append_assoc, tokens?_member, List.cons_append, scans _ (by simp),
      tokens?_cons ',' (more ++ rest) .comma rfl, moreScans, Option.map_map,
      Option.map_map, Option.map_map]
    simp [Function.comp_def]
  · rw [List.cons_append, List.foldlM_cons]
    simp [Written.step?, Written.follow?, Written.named?, builds, moreBuilds]

/-- An object is spelled with braces around its members. -/
theorem Spelled.object {chars : List Char} {members : List (List Nat × Written)}
    (spelled : MembersSpelled chars members) : Spelled ('{' :: chars) (.object members) := by
  -- The opening brace opens a frame, which the members fill and close.
  obtain ⟨codes, tokens, scans, builds⟩ := spelled
  refine ⟨.openBrace :: .string codes :: tokens, fun rest _ => ?_, fun frames => ?_⟩
  · rw [List.cons_append, tokens?_cons '{' (chars ++ rest) .openBrace rfl,
      scans, Option.map_map]
    rfl
  · rw [List.foldlM_cons, step?_value, Written.begin?, Option.bind_eq_bind, Option.bind_some,
      List.foldlM_cons, step?_nameOrEnd]
    exact builds [] frames

/-- An object without members is spelled with its braces alone. -/
theorem Spelled.object_nil : Spelled ['{', '}'] (.object []) := by
  -- The closing brace stands where the first name might.
  refine ⟨[.openBrace, .closeBrace], fun rest _ => ?_, fun frames => ?_⟩
  · rw [List.cons_append, List.singleton_append, tokens?_cons '{' ('}' :: rest) .openBrace rfl,
      tokens?_cons '}' rest .closeBrace rfl, Option.map_map]
    rfl
  · rw [List.foldlM_cons, step?_value]
    rfl

/-- A number of which the text is read back, as null if it is not finite. -/
def Number.Survives (value : Number) : Prop :=
  read? (number value).text = some (number value).plain

/-- A double that is not finite is written as null. -/
theorem chars_of_not_finite {value : Double} (infinite : value.isFinite = false) :
    (number (.float value)).chars = Json.null.chars := by
  cases value with
  | finite => cases infinite
  | nan | infinite => rfl

/-- The text of a number that survives spells what a text keeps of it. -/
theorem Number.Survives.spelled {value : Number} (survives : value.Survives) :
    ∃ written, Spelled (number value).chars written ∧
      ∀ room, written.value? room = some (number value).plain := by
  -- The text alone shows what its numeral stands for wherever it is written.
  have known {written : Written} (spelled : Spelled (number value).chars written) :
      written.value? nestingLimit = some (number value).plain := by
    rw [Number.Survives, Json.read?, Json.text, spelled.read?] at survives
    exact survives
  have numeral {numeral : NumberToken} (proper : numeral.Proper)
      (same : numeral.chars = value.chars) : ∃ written, Spelled (number value).chars written ∧
        ∀ room, written.value? room = some (number value).plain := by
    have spelled : Spelled (number value).chars (.number numeral) := by
      rw [Json.chars, ← same]
      exact .numeral proper
    exact ⟨_, spelled, fun room => known spelled⟩
  cases value with
  | integer whole => exact numeral (NumberToken.proper_ofInt whole) (NumberToken.chars_ofInt whole)
  | float double =>
    cases finite : double.isFinite with
    | true =>
      obtain ⟨_, proper, chars, -⟩ := Double.exists_numeral finite
      exact numeral proper chars
    | false =>
      refine ⟨.null, chars_of_not_finite finite ▸ .null, fun room => ?_⟩
      rw [plain, finite]
      rfl

/-- A 64-bit integer survives. -/
theorem Number.survives_integer (value : Int64) : (Number.integer value.toInt).Survives := by
  -- A whole number is written with its digits, which are those of a proper numeral.
  have spelled : Spelled (number (.integer value.toInt)).chars (.number (.ofInt value.toInt)) := by
    rw [Json.chars, Number.chars, ← NumberToken.chars_ofInt]
    exact .numeral (NumberToken.proper_ofInt _)
  rw [Number.Survives, Json.read?, Json.text, spelled.read?, Option.bind_some, Written.value?,
    NumberToken.number?_ofInt]
  rfl

/-- A double that is not finite survives as null. -/
theorem Number.survives_of_not_finite {value : Double} (infinite : value.isFinite = false) :
    (Number.float value).Survives := by
  -- Such a number is written as null, and null is read.
  have chars : (number (.float value)).chars = Json.null.chars := chars_of_not_finite infinite
  rw [Number.Survives, Json.read?, Json.text, chars, Spelled.null.read?, plain, infinite]
  rfl

mutual
/-- The text of a value whose numbers survive spells what a text keeps of the value. -/
theorem exists_spelled (room : Nat) : ∀ json : Json, json.depth ≤ room →
    (∀ value ∈ json.numbers, value.Survives) →
    ∃ written, Spelled json.chars written ∧ written.value? room = some json.plain
  -- An array or an object takes up one level of the room, and what it holds takes the rest.
  | .null, _, _ => ⟨_, .null, rfl⟩
  | .boolean value, _, _ => ⟨_, .boolean value, rfl⟩
  | .number value, _, survive => by
    obtain ⟨written, spelled, stands⟩ := (survive value (by simp [numbers])).spelled
    exact ⟨written, spelled, stands room⟩
  | .string text, _, _ => ⟨_, .string text, by rw [Written.value?, text?_toNat]; rfl⟩
  | .array items, deep, survive => by
    rw [depth] at deep
    cases items with
    | nil =>
      refine ⟨_, .array_nil, ?_⟩
      rw [Written.value?, if_neg (by omega)]
      rfl
    | cons item rest =>
      obtain ⟨written, spelled, stands⟩ := exists_itemsSpelled (room - 1) (item :: rest)
        (List.cons_ne_nil item rest) (by omega) survive
      refine ⟨_, .array spelled, ?_⟩
      rw [Written.value?, if_neg (by omega), stands]
      rfl
  | .object members, deep, survive => by
    rw [depth] at deep
    cases members with
    | nil =>
      refine ⟨_, .object_nil, ?_⟩
      rw [Written.value?, if_neg (by omega)]
      rfl
    | cons member rest =>
      obtain ⟨written, spelled, stands⟩ := exists_membersSpelled (room - 1) (member :: rest)
        (List.cons_ne_nil member rest) (by omega) survive
      refine ⟨_, .object spelled, ?_⟩
      rw [Written.value?, if_neg (by omega), stands]
      rfl
/-- The text of items whose numbers survive spells what a text keeps of the items. -/
theorem exists_itemsSpelled (room : Nat) : ∀ items : List Json, items ≠ [] →
    itemDepth items ≤ room → (∀ value ∈ itemNumbers items, value.Survives) →
    ∃ written, ItemsSpelled (itemChars items ++ [']']) written ∧
      itemValues? room written = some (plainItems items)
  -- Beside an item the others have the same room.
  | [], present, _, _ => absurd rfl present
  | item :: rest, _, deep, survive => by
    rw [itemDepth] at deep
    rw [itemNumbers, List.forall_mem_append] at survive
    obtain ⟨written, spelled, stands⟩ := exists_spelled room item (by omega) survive.1
    cases rest with
    | nil =>
      refine ⟨_, .last spelled, ?_⟩
      rw [itemValues?, stands]
      rfl
    | cons next rest =>
      obtain ⟨others, more, follow⟩ := exists_itemsSpelled room (next :: rest)
        (List.cons_ne_nil next rest) (by omega) survive.2
      refine ⟨written :: others, ?_, ?_⟩
      · rw [itemChars, List.append_assoc, List.cons_append]
        · exact .cons spelled more
        · simp
      · rw [itemValues?, stands, follow, plainItems]
        rfl
/-- The text of members whose numbers survive spells what a text keeps of the members. -/
theorem exists_membersSpelled (room : Nat) : ∀ members : List (String × Json), members ≠ [] →
    memberDepth members ≤ room → (∀ value ∈ memberNumbers members, value.Survives) →
    ∃ written, MembersSpelled (memberChars members ++ ['}']) written ∧
      memberValues? room written = some (plainMembers members)
  -- Beside a member the others have the same room.
  | [], present, _, _ => absurd rfl present
  | (name, value) :: rest, _, deep, survive => by
    rw [memberDepth] at deep
    rw [memberNumbers, List.forall_mem_append] at survive
    obtain ⟨written, spelled, stands⟩ := exists_spelled room value (by omega) survive.1
    cases rest with
    | nil =>
      refine ⟨_, .last name spelled, ?_⟩
      rw [memberValues?, text?_toNat, stands]
      rfl
    | cons next rest =>
      obtain ⟨others, more, follow⟩ := exists_membersSpelled room (next :: rest)
        (List.cons_ne_nil next rest) (by omega) survive.2
      refine ⟨(name.toList.map Char.toNat, written) :: others, ?_, ?_⟩
      · rw [memberChars, List.append_assoc, List.cons_append]
        · exact .cons name spelled more
        · simp
      · rw [memberValues?, text?_toNat, stands, follow, plainMembers]
        rfl
end

/-- A value that does not nest too deep and whose numbers survive is read back as a text keeps it. -/
theorem read?_text {json : Json} (deep : json.depth ≤ nestingLimit)
    (survive : ∀ value ∈ json.numbers, value.Survives) : read? json.text = some json.plain := by
  -- The text is spelled by what it stands for, and that is read within the limit.
  obtain ⟨written, spelled, stands⟩ := exists_spelled nestingLimit json deep survive
  rw [read?, text, spelled.read?, Option.bind_some, stands]

end RecordFilter.Json
