import RecordFilter.Filter.Outline
import RecordFilter.Proofs.Filter.Grammar
import RecordFilter.Proofs.Filter.Preorder
import RecordFilter.Proofs.Filter.RoundTrip

/-! The outline of a filter: the line of each node, and the shape of the tree read off the lines. -/

namespace RecordFilter

open Numeral (isDigit not_mem_digits not_mem_padded not_mem_signed)

variable {mark : Char}

/-- A number without an exponent is written with digits and a point. -/
theorem Numeral.Scientific.not_mem_positional (other : isDigit mark = false) (point : mark ≠ '.')
    (number : Scientific) : mark ∉ number.positional := by
  unfold positional
  split
  · have zero : mark ≠ '0' := by
      rintro rfl
      cases other
    simp [not_mem_digits other, zero]
  · -- The places are a part of the digits, and so is what stands before the point.
    have filled := not_mem_padded other
    simp only [List.mem_append, List.mem_cons, not_or]
    exact ⟨fun member => filled _ _ (List.mem_of_mem_take member), point,
      fun member => filled _ _ (List.mem_of_mem_drop member)⟩

/-- A double is written on one line. -/
theorem Double.text_single (number : Double) : '\n' ∉ number.text.toList := by
  -- The words for infinities and NaN have only letters, and other numbers no exponent.
  cases number with
  | nan => decide
  | infinite negative => cases negative <;> decide
  | finite negative rank =>
    rw [text, String.toList_ofList]
    exact not_mem_signed (by decide) (Numeral.Scientific.not_mem_positional rfl (by decide) _) _

/-- A date has no line feed among its characters. -/
theorem Date.chars_single (day : Date) : '\n' ∉ day.chars := by
  -- A date is made of digits, hyphens and perhaps a sign before the year.
  have padded : ∀ width value, '\n' ∉ Numeral.padded width value := not_mem_padded rfl
  have year : '\n' ∉ yearChars day.year := by
    unfold yearChars
    split
    · exact padded 4 _
    · split <;> simp [padded]
  simp [chars, year, padded]

/-- A timestamp is written on one line. -/
theorem Timestamp.text_single (time : Timestamp) : '\n' ∉ time.text.toList := by
  -- The clock adds colons and a point to the digits, and the end an offset.
  have padded : ∀ width value, '\n' ∉ Numeral.padded width value := not_mem_padded rfl
  have fraction (nanosecond : Nat) : '\n' ∉ fractionChars nanosecond := by
    unfold fractionChars
    split_ifs <;> simp [padded]
  simp [text, localChars, clockChars, Date.chars_single, padded, fraction]

namespace Literal

/-- The strings of a literal, those in lists included. -/
def strings (literal : Literal) : List String :=
  literal.parts.filterMap text?

/-- No line feed stands in the strings of a literal. -/
def OnOneLine (literal : Literal) : Prop :=
  ∀ text ∈ literal.strings, '\n' ∉ text.toList

/-- The strings of a literal are finitely many. -/
instance : DecidablePred OnOneLine :=
  fun literal => inferInstanceAs (Decidable (∀ text ∈ literal.strings, '\n' ∉ text.toList))

mutual
/-- A literal whose strings hold no line feed is shown on one line. -/
theorem outlined_single : ∀ literal : Literal, literal.OnOneLine → '\n' ∉ literal.outlined.toList
  -- Scalars are written with characters of their own, and texts as they are.
  | .null, _ => by decide
  | .boolean value, _ => by cases value <;> decide
  | .int value, _ => by
    rw [outlined, text, Numeral.integerText, String.toList_ofList, Numeral.integerChars]
    · exact not_mem_signed (by decide) (not_mem_digits rfl _) _
    all_goals simp
  | .float value, _ => value.text_single
  | .string chars, single => by
    have plain : '\n' ∉ chars.toList := single chars List.mem_cons_self
    simp [outlined, inQuotes, plain]
  | .list items, single => by
    have inside := outlinedItems_single items single
    -- Commas and spaces stand between the items, and brackets around them.
    have joined : '\n' ∉ (Text.joined ", " (outlinedItems items)).toList := by
      rw [Text.joined, String.toList_intercalate]
      refine Text.not_mem_intercalate (by decide) ?_
      rwa [List.forall_mem_map]
    simp [outlined, joined]
  | .date day, _ => by
    rw [outlined, text, Date.text, String.toList_ofList]
    · exact day.chars_single
    all_goals simp
  | .timestamp time, _ => time.text_single
/-- Items whose strings hold no line feed are shown on one line each. -/
theorem outlinedItems_single : ∀ items : List Literal,
    (∀ text ∈ (itemParts items).filterMap text?, '\n' ∉ text.toList) →
      ∀ shown ∈ outlinedItems items, '\n' ∉ shown.toList
  | [], _ => nofun
  | item :: rest, single => by
    rw [itemParts, List.filterMap_append, List.forall_mem_append] at single
    obtain ⟨first, further⟩ := single
    have alone := outlined_single item first
    have others := outlinedItems_single rest further
    -- A string in a list is shown without the quotes that it has alone.
    cases item with
    | string chars =>
      rw [outlinedItems, List.forall_mem_cons]
      exact ⟨first chars List.mem_cons_self, others⟩
    | _ =>
      rw [outlinedItems, List.forall_mem_cons]
      · exact ⟨alone, others⟩
      · simp
end

end Literal

namespace Filter

/-- What the line of a node says, without the spaces before it. -/
def headline : Filter → String
  | .condition path operator value _ =>
    conditionLine 0 path operator ((value.map Literal.outlined).getD "null")
  | .nested path operator _ _ => conditionLine 0 path operator "<filter>"
  | .group combinator negated _ => groupLine 0 combinator negated

/-- The line of a node at a depth, in an outline whose root stands at a level. -/
def shown (level : Nat) (node : Nat × Filter) : String :=
  indentation (level + node.1) ++ node.2.headline

/-- No line feed stands in the path of a node, or in the strings of its literal. -/
def OnOneLine : Filter → Prop
  | .condition path _ value _ => '\n' ∉ path.toList ∧ ∀ literal ∈ value, literal.OnOneLine
  | .nested path _ _ _ => '\n' ∉ path.toList
  | .group _ _ _ => True

/-- The node has no line feeds, or it has them in a path or a string. -/
instance : DecidablePred OnOneLine
  | .condition _ _ _ _ => inferInstanceAs (Decidable (_ ∧ _))
  | .nested _ _ _ _ => inferInstanceAs (Decidable (_ ∉ _))
  | .group _ _ _ => inferInstanceAs (Decidable True)

/-- The path of a node, if it has one, can be read. -/
def HasPath : Filter → Prop
  | .condition path _ _ _ | .nested path _ _ _ => ∃ read, Path.read path = .ok read
  | .group _ _ _ => True

/-- A property of every node of a filter. -/
def Everywhere (property : Filter → Prop) (filter : Filter) : Prop :=
  ∀ node ∈ filter.preorder 0, property node.2

/-- The nodes of a filter are finitely many. -/
instance {property : Filter → Prop} [DecidablePred property] :
    DecidablePred (Everywhere property) :=
  fun filter => inferInstanceAs (Decidable (∀ node ∈ filter.preorder 0, property node.2))

variable {level : Nat} {filter first second : Filter} {path : String} {operator : Operator}
  {combinator : Combinator} {negated : Bool}

/-- The spaces of several levels are those of each of them. -/
theorem indentation_add (level further : Nat) :
    indentation (level + further) = indentation level ++ indentation further := by
  -- Each level has its two spaces, and copies of a character add up.
  rw [indentation, Nat.mul_add, ← List.replicate_append_replicate, String.ofList_append]
  rfl

/-- The line of a condition begins with the spaces of its level. -/
theorem conditionLine_eq (level : Nat) (path : String) (operator : Operator) (value : String) :
    conditionLine level path operator value =
      indentation level ++ conditionLine 0 path operator value := by
  simp [conditionLine, indentation, String.append_assoc]

/-- The line of a group begins with the spaces of its level. -/
theorem groupLine_eq (level : Nat) (combinator : Combinator) (negated : Bool) :
    groupLine level combinator negated = indentation level ++ groupLine 0 combinator negated := by
  simp [groupLine, indentation, String.append_assoc]

mutual
/-- The lines of a filter are those of its nodes in pre-order. -/
theorem outlineLines_eq (level depth : Nat) (filter : Filter) :
    filter.outlineLines (level + depth) = (filter.preorder depth).map (shown level) := by
  -- The level stays that of the root, and only the depth grows on the way down.
  cases filter with
  | condition path operator value negated =>
    rw [outlineLines, conditionLine_eq]
    rfl
  | nested path operator body negated =>
    rw [outlineLines, conditionLine_eq, Nat.add_assoc, outlineLines_eq level (depth + 1) body]
    rfl
  | group combinator negated children =>
    rw [outlineLines, groupLine_eq, Nat.add_assoc, outlineLinesAll_eq level (depth + 1) children]
    rfl
/-- The lines of several filters are those of their nodes in pre-order. -/
theorem outlineLinesAll_eq (level depth : Nat) (filters : List Filter) :
    outlineLinesAll (level + depth) filters = (preorderAll depth filters).map (shown level) := by
  -- The children of a group all stand at one depth.
  cases filters with
  | nil => rfl
  | cons child rest =>
    rw [outlineLinesAll, outlineLines_eq level depth child, outlineLinesAll_eq level depth rest,
      preorderAll, List.map_append]
end

/-- An outline is the lines of all nodes in pre-order, each of them ended. -/
theorem outline_eq (filter : Filter) (level : Nat) :
    filter.outline level = Text.ended ((filter.preorder 0).map (shown level)) := by
  -- An outline begins at its level with the root, which has no depth.
  rw [← outlineLines_eq]
  rfl

/-- Further levels put spaces before the line of a node. -/
theorem shown_add (further level : Nat) (node : Nat × Filter) :
    shown (level + further) node = indentation further ++ shown level node := by
  -- The level of the outline and the depth of the node add up to one indentation.
  rw [shown, Nat.add_comm level, Nat.add_assoc, indentation_add, String.append_assoc]
  rfl

/-- The line of a condition is cut at its commas. -/
theorem toList_conditionLine (path : String) (operator : Operator) (value : String) :
    (conditionLine 0 path operator value).toList =
      "Property: ".toList ++ (path.toList ++ ',' :: (" Filter: ".toList ++
        (operator.name.toList ++ ',' :: (" Value: ".toList ++ value.toList)))) := by
  simp [conditionLine, indentation]

/-- A condition shows its path and its operator, with a body and without. -/
theorem exists_headline (here : filter.heading = .condition path operator) :
    ∃ value, filter.headline = conditionLine 0 path operator value := by
  -- A body is shown by a mark in place of the value.
  cases filter with
  | condition | nested =>
    obtain ⟨rfl, rfl⟩ := Heading.condition.inj here
    exact ⟨_, rfl⟩
  | group => cases here

/-- No comma stands in the path of a condition that can be read. -/
theorem HasPath.not_mem_comma (readable : filter.HasPath)
    (here : filter.heading = .condition path operator) : ',' ∉ path.toList := by
  -- Neither words nor brackets nor points have commas in them.
  cases filter with
  | condition | nested =>
    obtain ⟨rfl, rfl⟩ := Heading.condition.inj here
    obtain ⟨read, good⟩ := readable
    exact Path.not_mem_of_read good rfl (by decide) (by decide) (by decide)
  | group => cases here

/-- A group shows its combinator and its negation. -/
theorem headline_group (here : filter.heading = .group combinator negated) :
    filter.headline = groupLine 0 combinator negated := by
  -- Of its children nothing is shown on the line of a group.
  cases filter with
  | condition | nested => cases here
  | group =>
    obtain ⟨rfl, rfl⟩ := Heading.group.inj here
    rfl

/-- The line of a condition is told from that of a group by its first character. -/
theorem head?_headline (filter : Filter) :
    filter.headline.toList.head? =
      match filter.heading with
      -- At level zero the line begins with its first word at once.
      | .condition _ _ => some 'P'
      | .group _ _ => some 'O' := by
  cases filter with
  | condition | nested => simp [headline, heading, conditionLine, indentation]
  | group combinator negated children => simp [headline, heading, groupLine, indentation]

/-- The line of a node begins with as many spaces as its depth and the level ask for. -/
theorem leadingSpaces_shown (level : Nat) (node : Nat × Filter) :
    Text.leadingSpaces (shown level node) = 2 * (level + node.1) := by
  -- No headline begins with a space, so the spaces counted are those of the indentation.
  have solid : node.2.headline.toList.takeWhile (· == ' ') = [] := by
    have begins := head?_headline node.2
    cases chars : node.2.headline.toList with
    | nil => rfl
    | cons first rest =>
      rw [chars, List.head?_cons] at begins
      refine List.takeWhile_cons_of_neg ?_
      cases heading : node.2.heading <;> rw [heading] at begins <;>
        simp [Option.some.inj begins]
  have spaces : ∀ char ∈ List.replicate (2 * (level + node.1)) ' ', (char == ' ') = true := by
    simp [List.mem_replicate]
  rw [Text.leadingSpaces, shown, indentation, String.toList_append, String.toList_ofList,
    List.takeWhile_append_of_pos spaces, solid, List.append_nil, List.length_replicate]

/-- The line of a condition whose path and value hold no line feed is one line. -/
theorem conditionLine_single {value : String} (plain : '\n' ∉ path.toList)
    (single : '\n' ∉ value.toList) : '\n' ∉ (conditionLine 0 path operator value).toList := by
  -- Besides path and value there are fixed words and the name of the operator.
  have name : '\n' ∉ operator.name.toList := by cases operator <;> decide
  simp [toList_conditionLine, plain, name, single]

/-- A node whose texts hold no line feed is shown on one line. -/
theorem OnOneLine.shown (single : filter.OnOneLine) (level depth : Nat) :
    '\n' ∉ (shown level (depth, filter)).toList := by
  -- A body is not shown on the line of its condition, and a group has only words.
  have line : '\n' ∉ filter.headline.toList := by
    cases filter with
    | condition path operator value negated =>
      refine conditionLine_single single.1 ?_
      cases value with
      | none => decide
      | some literal => exact literal.outlined_single (single.2 literal rfl)
    | nested path operator body negated => exact conditionLine_single single (by decide)
    | group combinator negated children =>
      have words : '\n' ∉ (groupLine 0 combinator negated).toList := by
        cases combinator <;> cases negated <;> decide
      exact words
  simp [Filter.shown, indentation, line]

/-- Paths without commas are told apart by the lines of their conditions, and so are operators. -/
theorem conditionLine_inj {other : String} {another : Operator} {value shown : String}
    (plain : ',' ∉ path.toList) (plainOther : ',' ∉ other.toList)
    (same : conditionLine 0 path operator value = conditionLine 0 other another shown) :
    path = other ∧ operator = another := by
  have name (operator : Operator) : ',' ∉ operator.name.toList := by
    cases operator <;> decide
  have chars := congrArg String.toList same
  rw [toList_conditionLine, toList_conditionLine, List.append_cancel_left_eq] at chars
  -- The first comma ends the path, and the next one the name of the operator.
  obtain ⟨paths, after⟩ := Text.append_separator_inj plain plainOther chars
  rw [List.append_cancel_left_eq] at after
  obtain ⟨names, -⟩ := Text.append_separator_inj (name operator) (name another) after
  have found := operator.ofName?_name
  rw [String.toList_inj.1 names, another.ofName?_name] at found
  exact ⟨String.toList_inj.1 paths, (Option.some.inj found).symm⟩

/-- Groups are told apart by their lines. -/
theorem groupLine_inj {other : Combinator} {turned : Bool}
    (same : groupLine 0 combinator negated = groupLine 0 other turned) :
    combinator = other ∧ negated = turned := by
  -- There are few groups by themselves, and their lines differ in pairs.
  revert same
  cases combinator <;> cases other <;> cases negated <;> cases turned <;> decide

/-- Nodes with paths that can be read have their headings shown. -/
theorem heading_of_headline (readable : first.HasPath) (readableOther : second.HasPath)
    (same : first.headline = second.headline) : first.heading = second.heading := by
  -- The first character settles the kind of node, and the rest of the line is read for that kind.
  have begins : first.headline.toList.head? = second.headline.toList.head? := by rw [same]
  rw [head?_headline, head?_headline] at begins
  cases here : first.heading with
  | condition path operator =>
    cases there : second.heading with
    | group => simp [here, there] at begins
    | condition other another =>
      obtain ⟨value, line⟩ := exists_headline here
      obtain ⟨shown, lineOther⟩ := exists_headline there
      rw [line, lineOther] at same
      obtain ⟨rfl, rfl⟩ := conditionLine_inj (readable.not_mem_comma here)
        (readableOther.not_mem_comma there) same
      rfl
  | group combinator negated =>
    cases there : second.heading with
    | condition => simp [here, there] at begins
    | group other turned =>
      rw [headline_group here, headline_group there] at same
      obtain ⟨rfl, rfl⟩ := groupLine_inj same
      rfl

/-- Lines of nodes with paths that can be read show the depths and the headings. -/
theorem headings_of_shown {nodes others : List (Nat × Filter)}
    (readable : ∀ node ∈ nodes, node.2.HasPath) (readableOther : ∀ node ∈ others, node.2.HasPath)
    (same : nodes.map (shown level) = others.map (shown level)) :
    headings nodes = headings others := by
  induction nodes generalizing others with
  | nil =>
    cases others with
    | nil => rfl
    | cons => cases same
  | cons node rest ih =>
    cases others with
    | nil => cases same
    | cons other more =>
      obtain ⟨here, later⟩ := List.forall_mem_cons.1 readable
      obtain ⟨there, laterOther⟩ := List.forall_mem_cons.1 readableOther
      obtain ⟨line, lines⟩ := List.cons.inj same
      -- The spaces show the depth, and the same spaces are taken off both lines.
      have depth : node.1 = other.1 := by
        have spaces := congrArg Text.leadingSpaces line
        rw [leadingSpaces_shown, leadingSpaces_shown] at spaces
        omega
      have headline : node.2.headline = other.2.headline := by
        have chars := congrArg String.toList line
        rw [shown, shown, depth, String.toList_append, String.toList_append,
          List.append_cancel_left_eq] at chars
        exact String.toList_inj.1 chars
      have heading := heading_of_headline here there headline
      have first : (node.1, node.2.heading) = (other.1, other.2.heading) := by
        rw [depth, heading]
      exact List.cons_eq_cons.2 ⟨first, ih later laterOther lines⟩

/--
The outline of a filter shows its nodes, one on each line, and the depth of each as spaces before it.

Further levels only put more spaces before each line. Two filters with the same outline, in which
all paths can be read, have one shape: they differ in literals and in the negation of conditions at
most.
-/
theorem outline_shape (level : Nat) :
    (∀ filter : Filter, filter.Everywhere OnOneLine →
      let lines := (filter.preorder 0).map (shown level)
      filter.outline level = Text.ended lines ∧ (∀ line ∈ lines, '\n' ∉ line.toList) ∧
      lines.length = filter.nodeCount ∧
      lines.map Text.leadingSpaces =
        (filter.preorder 0).map (fun node => 2 * (level + node.1)) ∧
      ∀ further, filter.outline (level + further) =
        Text.ended (lines.map (indentation further ++ ·))) ∧
    ∀ first second : Filter, first.Everywhere OnOneLine → second.Everywhere OnOneLine →
      first.Everywhere HasPath → second.Everywhere HasPath →
      first.outline level = second.outline level → Congruent first second := by
  have single {filter : Filter} (every : filter.Everywhere OnOneLine) :
      ∀ line ∈ (filter.preorder 0).map (shown level), '\n' ∉ line.toList := by
    rw [List.forall_mem_map]
    exact fun node member => (every node member).shown level node.1
  constructor
  · intro filter every lines
    refine ⟨outline_eq filter level, single every, ?_, ?_, fun further => ?_⟩
    · rw [List.length_map, length_preorder]
    · rw [List.map_map]
      exact List.map_congr_left fun node _ => leadingSpaces_shown level node
    · rw [outline_eq, List.map_map]
      exact congrArg Text.ended (List.map_congr_left fun node _ => shown_add further level node)
  · intro first second every everyOther readable readableOther same
    -- The text is taken apart into its lines, and these bring back the nodes with their depths.
    rw [outline_eq, outline_eq] at same
    have lines := Text.ended_inj (single every) (single everyOther) same
    exact congruent_of_preorder (headings_of_shown readable readableOther lines)

/-- Filters that differ in what no line shows, with commas in strings and a body about its focus. -/
theorem outline_shape_null :
    let first : Filter := .group .xor true
      [.nested "xs[0].b" .all (.condition "" .equal none true) false,
        .condition "c" .isIn (some (.list [.string "é, Filter: In\r", .null])) false]
    let second : Filter := .group .xor true
      [.nested "xs[0].b" .all (.condition "" .equal (some .null) false) true,
        .condition "c" .isIn (some (.list [.string "é", .string "Filter: In\r", .null])) true]
    first.outline 3 = Text.ended (((first.preorder 0).map (shown 1)).map (indentation 2 ++ ·)) ∧
      ((first.preorder 0).map (shown 1)).length = 4 ∧
      first.outline 1 = second.outline 1 ∧ Congruent first second := by
  intro first second
  have single : first.Everywhere OnOneLine := by decide
  have singleOther : second.Everywhere OnOneLine := by decide
  have readable : first.Everywhere HasPath := by
    simp only [first, Everywhere, preorder, preorderAll, List.append_nil, List.cons_append,
      List.nil_append, List.forall_mem_cons]
    exact ⟨trivial, ⟨_, rfl⟩, ⟨_, rfl⟩, ⟨_, rfl⟩, List.forall_mem_nil _⟩
  have readableOther : second.Everywhere HasPath := by
    simp only [second, Everywhere, preorder, preorderAll, List.append_nil, List.cons_append,
      List.nil_append, List.forall_mem_cons]
    exact ⟨trivial, ⟨_, rfl⟩, ⟨_, rfl⟩, ⟨_, rfl⟩, List.forall_mem_nil _⟩
  -- Null in a list is shown as the text that says null, without quotes.
  have same : first.outline 1 = second.outline 1 := by decide +kernel
  obtain ⟨lines, shape⟩ := outline_shape 1
  obtain ⟨-, -, count, -, deeper⟩ := lines first single
  exact ⟨deeper 2, count, same,
    shape first second single singleOther readable readableOther same⟩

end Filter

end RecordFilter
