import RecordFilter.Filter.Json
import RecordFilter.Proofs.Json.RoundTrip

/-! Filters that are written as JSON and read again: what changes in their literals, and that nothing else does. -/

namespace RecordFilter

namespace Literal

mutual
/-- What a text keeps of a literal: dates and timestamps as strings, and only finite doubles. -/
def normal : Literal → Literal
  | .float value => if value.isFinite then .float value else .null
  | .list items => .list (normalItems items)
  | .date day => .string day.text
  | .timestamp time => .string time.storedText
  | literal => literal
/-- What a text keeps of the items of a list. -/
def normalItems : List Literal → List Literal
  | [] => []
  | item :: rest => item.normal :: normalItems rest
end

mutual
/-- A literal and, if it is a list, the literals in it at any depth. -/
def parts : Literal → List Literal
  | .list items => .list items :: itemParts items
  | literal => [literal]
/-- The items of a list and the literals in them. -/
def itemParts : List Literal → List Literal
  | [] => []
  | item :: rest => item.parts ++ itemParts rest
end

/-- A literal that a text keeps as it is, apart from the items of a list. -/
def IsPlain : Literal → Prop
  | .float value => value.isFinite = true
  | .date _ | .timestamp _ => False
  | _ => True

end Literal

namespace Filter

/-- What a text keeps of the value of a condition, of which null is the same as none. -/
def normalValue (value : Option Literal) : Option Literal :=
  (value.map Literal.normal).filter fun literal => !literal.isNull

mutual
/-- What a text keeps of a filter: everything but some of its literals. -/
def normal : Filter → Filter
  | .condition path operator value negated => .condition path operator (normalValue value) negated
  | .nested path operator body negated => .nested path operator body.normal negated
  | .group combinator negated children => .group combinator negated (normalAll children)
/-- What a text keeps of several filters. -/
def normalAll : List Filter → List Filter
  | [] => []
  | child :: rest => child.normal :: normalAll rest
end

mutual
/-- The literals of a filter, those in lists included. -/
def literals : Filter → List Literal
  | .condition _ _ value _ => value.toList.flatMap Literal.parts
  | .nested _ _ body _ => body.literals
  | .group _ _ children => literalsOfAll children
/-- The literals of several filters. -/
def literalsOfAll : List Filter → List Literal
  | [] => []
  | child :: rest => child.literals ++ literalsOfAll rest
end

/-- A filter that a text keeps as it is. -/
inductive IsNormal : Filter → Prop
  | condition (path : String) (operator : Operator) {value : Option Literal} (negated : Bool)
    (kept : ∀ literal ∈ value, literal ≠ .null ∧ ∀ part ∈ literal.parts, part.IsPlain) :
    IsNormal (.condition path operator value negated)
  | nested (path : String) (operator : Operator) {body : Filter} (negated : Bool)
    (kept : body.IsNormal) : IsNormal (.nested path operator body negated)
  | group (combinator : Combinator) (negated : Bool) {children : List Filter}
    (kept : ∀ child ∈ children, child.IsNormal) : IsNormal (.group combinator negated children)

end Filter

namespace Literal

mutual
/-- What is kept of a literal would be kept as it is. -/
theorem isPlain_normal : ∀ literal : Literal, ∀ part ∈ literal.normal.parts, part.IsPlain
  -- Dates and times have become texts, and numbers that are not finite null.
  | .null => by simp [normal, parts, IsPlain]
  | .boolean _ => by simp [normal, parts, IsPlain]
  | .int _ => by simp [normal, parts, IsPlain]
  | .string _ => by simp [normal, parts, IsPlain]
  | .date _ => by simp [normal, parts, IsPlain]
  | .timestamp _ => by simp [normal, parts, IsPlain]
  | .float value => by
    cases finite : value.isFinite <;> simp [normal, finite, parts, IsPlain]
  | .list items => by
    rw [normal, parts, List.forall_mem_cons]
    exact ⟨trivial, isPlain_normalItems items⟩
/-- What is kept of the items of a list would be kept as it is. -/
theorem isPlain_normalItems : ∀ items, ∀ part ∈ itemParts (normalItems items), part.IsPlain
  -- The parts of a list are those of its items in turn.
  | [] => by simp [normalItems, itemParts]
  | item :: rest => by
    rw [normalItems, itemParts, List.forall_mem_append]
    exact ⟨isPlain_normal item, isPlain_normalItems rest⟩
end

mutual
/-- A literal without dates, timestamps and doubles that are not finite is kept. -/
theorem normal_of_isPlain : ∀ literal : Literal, (∀ part ∈ literal.parts, part.IsPlain) →
    literal.normal = literal
  -- What normalising would change does not stand in a plain literal.
  | .null, _ | .boolean _, _ | .int _, _ | .string _, _ => rfl
  | .date day, plain => False.elim (plain (.date day) (by simp [parts]))
  | .timestamp time, plain => False.elim (plain (.timestamp time) (by simp [parts]))
  | .float value, plain => by
    have finite : value.isFinite = true := plain (.float value) (by simp [parts])
    rw [normal, if_pos finite]
  | .list items, plain => by
    rw [parts, List.forall_mem_cons] at plain
    rw [normal, normalItems_of_isPlain items plain.2]
/-- Items without dates, timestamps and doubles that are not finite are kept. -/
theorem normalItems_of_isPlain : ∀ items : List Literal, (∀ part ∈ itemParts items, part.IsPlain) →
    normalItems items = items
  -- The items are plain when all their parts are.
  | [], _ => rfl
  | item :: rest, plain => by
    rw [itemParts, List.forall_mem_append] at plain
    rw [normalItems, normal_of_isPlain item plain.1, normalItems_of_isPlain rest plain.2]
end

end Literal

namespace Filter

mutual
/-- What is kept of a filter would be kept as it is. -/
theorem isNormal_normal : ∀ filter : Filter, filter.normal.IsNormal
  -- A literal that is null falls away, and what is left of the others is plain.
  | .condition path operator value negated => by
    refine .condition path operator negated fun literal member => ?_
    obtain ⟨written, same⟩ := Option.filter_eq_some_iff.1 member
    obtain ⟨original, -, rfl⟩ := Option.map_eq_some_iff.1 written
    refine ⟨fun null => ?_, Literal.isPlain_normal original⟩
    rw [null] at same
    cases same
  | .nested path operator body negated => .nested path operator negated (isNormal_normal body)
  | .group combinator negated children => .group combinator negated (isNormal_normalAll children)
/-- What is kept of several filters would be kept as it is. -/
theorem isNormal_normalAll : ∀ children : List Filter, ∀ child ∈ normalAll children, child.IsNormal
  -- Normalising goes through the children one by one.
  | [] => by simp [normalAll]
  | child :: rest => by
    rw [normalAll, List.forall_mem_cons]
    exact ⟨isNormal_normal child, isNormal_normalAll rest⟩
end

mutual
/-- A filter in normal form is kept as it is. -/
theorem normal_of_isNormal : ∀ filter : Filter, filter.IsNormal → filter.normal = filter
  -- Of a normal condition the literal, if there is one, is plain and not null.
  | .condition path operator value negated, kept => by
    cases kept with
    | condition _ _ _ kept =>
      cases value with
      | none => rfl
      | some literal =>
        obtain ⟨present, plain⟩ := kept literal rfl
        have shown : literal.isNull = false := by
          cases literal <;> first | rfl | exact absurd rfl present
        simp [normal, normalValue, Literal.normal_of_isPlain literal plain, shown]
  | .nested path operator body negated, kept => by
    cases kept with
    | nested _ _ _ kept => rw [normal, normal_of_isNormal body kept]
  | .group combinator negated children, kept => by
    cases kept with
    | group _ _ kept => rw [normal, normalAll_of_isNormal children kept]
/-- Filters in normal form are kept as they are. -/
theorem normalAll_of_isNormal : ∀ children : List Filter, (∀ child ∈ children, child.IsNormal) →
    normalAll children = children
  -- Each child is normal, and so it stays as it is.
  | [], _ => rfl
  | child :: rest, kept => by
    rw [List.forall_mem_cons] at kept
    rw [normalAll, normal_of_isNormal child kept.1, normalAll_of_isNormal rest kept.2]
end

end Filter

namespace Literal

mutual
/-- A literal is read from what a text keeps of its JSON value as what a text keeps of the literal. -/
theorem ofJson?_plain : ∀ literal : Literal, ofJson? literal.toJson.plain = some literal.normal
  -- Whole numbers are read as such, and a number that is not finite was written as null.
  | .null => rfl
  | .boolean _ => rfl
  | .int value => by
    rw [toJson, Json.plain, ofJson?, Json.Number.int64?, Numeral.int64?_toInt]
    · rfl
    all_goals simp
  | .float value => by
    cases finite : value.isFinite <;>
      simp [toJson, Json.plain, finite, ofJson?, normal, Json.Number.int64?, Json.Number.double]
  | .string _ => rfl
  | .date _ => rfl
  | .timestamp _ => rfl
  | .list items => by
    rw [toJson, Json.plain, ofJson?, itemsOfJson?_plain items]
    rfl
/-- The items of a list are read from what a text keeps of their JSON values. -/
theorem itemsOfJson?_plain : ∀ items : List Literal,
    itemsOfJson? (Json.plainItems (itemsToJson items)) = some (normalItems items)
  -- Items are read back one by one, in the order in which they were written.
  | [] => rfl
  | item :: rest => by
    rw [itemsToJson, Json.plainItems, itemsOfJson?, ofJson?_plain item, itemsOfJson?_plain rest]
    rfl
end

end Literal

namespace Filter

/-- What is neither null nor an object is read as a literal where a condition may have a value. -/
theorem argument?_eq {json : Json} (present : json ≠ .null)
    (flat : ∀ members, json ≠ .object members) :
    argument? json = (Literal.ofJson? json).map .literal := by
  -- Null is no argument, and an object is read as a sub-filter.
  cases json with
  | null => exact absurd rfl present
  | object members => exact absurd rfl (flat members)
  | _ => rfl

/-- A literal is read where a condition may have a value, and null as none. -/
theorem argument?_plain (literal : Literal) :
    ∃ argument, argument? literal.toJson.plain = some argument ∧ ∀ path operator negated,
      ofArgument path operator argument negated =
        .condition path operator (normalValue (some literal)) negated := by
  have read := Literal.ofJson?_plain literal
  -- Null arrives as no value at all, and so does a double that is not finite.
  cases literal with
  | null => exact ⟨.absent, rfl, fun _ _ _ => rfl⟩
  | float value =>
    cases finite : value.isFinite with
    | true =>
      rw [Literal.toJson, Json.plain, finite, if_pos rfl] at read ⊢
      refine ⟨_, (argument?_eq (by simp) (by simp)).trans (congrArg _ read), fun _ _ _ => ?_⟩
      rw [normalValue, Option.map_some, Literal.normal, finite]
      rfl
    | false =>
      rw [Literal.toJson, Json.plain, finite]
      refine ⟨.absent, rfl, fun _ _ _ => ?_⟩
      rw [normalValue, Option.map_some, Literal.normal, finite]
      rfl
  | boolean | int | string | list | date | timestamp =>
    refine ⟨_, (argument?_eq ?_ ?_).trans (congrArg _ read), fun _ _ _ => rfl⟩ <;>
      simp [Literal.toJson, Json.plain]

/-- A filter is written as an object, so it is read as one where a condition may have a value. -/
theorem argument?_toJson (filter : Filter) :
    argument? filter.toJson.plain = (ofJson? false filter.toJson.plain).map .body := by
  cases filter <;> rfl

/-- A condition with something in the place of its value is read from the members that it is written as. -/
theorem ofJson?_condition (root : Bool) (path : String) (operator : Operator) {json : Json}
    {argument : Argument} (negated : Bool) (read : argument? json = some argument) :
    ofJson? root (.object [("kind", .string "condition"), ("path", .string path),
      ("operator", .string operator.name), ("value", json), ("negated", .boolean negated)]) =
        some (ofArgument path operator argument negated) := by
  -- The members stand in the order of writing, and each of them is named once.
  simp [ofJson?, kindOf?, kind?, ofKind?, conditionMembers?, Json.fill?, textOf?, operatorOf?,
    Json.word?, Operator.ofName?_name, truthOf?, ConditionParts.node?, read]

mutual
/-- A filter is read from what a text keeps of its JSON value as what a text keeps of the filter. -/
theorem ofJson?_plain (root : Bool) : ∀ filter : Filter,
    ofJson? root filter.toJson.plain = some filter.normal
  -- The body and the children were written below the root, where the kind may be a number too.
  | .condition path operator none negated => by
    simp [toJson, Json.plain, Json.plainMembers, ofJson?, kindOf?, kind?, ofKind?,
      conditionMembers?, Json.fill?, textOf?, operatorOf?, Json.word?, Operator.ofName?_name,
      truthOf?, ConditionParts.node?, normal, normalValue, ofArgument]
  | .condition path operator (some literal) negated => by
    obtain ⟨argument, read, same⟩ := argument?_plain literal
    exact (ofJson?_condition root path operator negated read).trans (congrArg some (same ..))
  | .nested path operator body negated => by
    have read := argument?_toJson body
    rw [ofJson?_plain false body] at read
    exact ofJson?_condition root path operator negated read
  | .group combinator negated children => by
    simp [toJson, Json.plain, Json.plainMembers, ofJson?, kindOf?, kind?, ofKind?, groupMembers?,
      Json.fill?, combinatorOf?, Json.word?, Combinator.ofName?_name, truthOf?, children?,
      filters?_plain children, GroupParts.node?, normal]
/-- Filters are read from what a text keeps of their JSON values. -/
theorem filters?_plain : ∀ children : List Filter,
    filters? (Json.plainItems (childrenToJson children)) = some (normalAll children)
  -- Children are read back one by one, in the order in which they were written.
  | [] => rfl
  | child :: rest => by
    rw [childrenToJson, Json.plainItems, filters?, ofJson?_plain false child, filters?_plain rest]
    rfl
end

end Filter

/-- A finite double of which the text is read back as the same number. -/
def Double.IsReadBack (number : Double) : Prop :=
  Json.read? (Json.number (.float number)).text = some (.number (.float number))

namespace Literal

mutual
/-- The numbers of a literal survive if its finite doubles are read back. -/
theorem survives_toJson : ∀ literal : Literal,
    (∀ number, .float number ∈ literal.parts → number.isFinite = true → number.IsReadBack) →
    ∀ value ∈ literal.toJson.numbers, value.Survives
  -- Only numbers can be lost, and of those only such as are not whole.
  | .int whole, _ => List.forall_mem_singleton.2 (Json.Number.survives_integer whole)
  | .float number, back => by
    refine List.forall_mem_singleton.2 ?_
    cases finite : number.isFinite with
    | false => exact Json.Number.survives_of_not_finite finite
    | true =>
      rw [Json.Number.Survives, Json.plain, if_pos finite]
      exact back number (by simp [parts]) finite
  | .list items, back =>
    survives_itemsToJson items fun number member => back number (List.mem_cons_of_mem _ member)
  | .null, _ | .boolean _, _ | .string _, _ | .date _, _ | .timestamp _, _ =>
    List.forall_mem_nil _
/-- The numbers of the items of a list survive if their finite doubles are read back. -/
theorem survives_itemsToJson : ∀ items : List Literal,
    (∀ number, .float number ∈ itemParts items → number.isFinite = true → number.IsReadBack) →
    ∀ value ∈ Json.itemNumbers (itemsToJson items), value.Survives
  -- The parts of the items are split between the first one and the rest.
  | [], _ => List.forall_mem_nil _
  | item :: rest, back => by
    rw [itemsToJson, Json.itemNumbers, List.forall_mem_append]
    exact ⟨survives_toJson item fun number member => back number (List.mem_append_left _ member),
      survives_itemsToJson rest fun number member => back number (List.mem_append_right _ member)⟩
end

end Literal

namespace Filter

mutual
/-- The numbers of a filter survive if its finite doubles are read back. -/
theorem survives_toJson : ∀ filter : Filter,
    (∀ number, .float number ∈ filter.literals → number.isFinite = true → number.IsReadBack) →
    ∀ value ∈ filter.toJson.numbers, value.Survives
  -- All numbers of a filter are those of its literals, wherever these stand.
  | .condition path operator none negated, _ => List.forall_mem_nil _
  | .condition path operator (some literal) negated, back => by
    have survive := Literal.survives_toJson literal (by simpa [literals] using back)
    simpa [toJson, Json.numbers, Json.memberNumbers] using survive
  | .nested path operator body negated, back => by
    have survive := survives_toJson body back
    simpa [toJson, Json.numbers, Json.memberNumbers] using survive
  | .group combinator negated children, back => by
    have survive := survives_childrenToJson children back
    simpa [toJson, Json.numbers, Json.memberNumbers] using survive
/-- The numbers of several filters survive if their finite doubles are read back. -/
theorem survives_childrenToJson : ∀ children : List Filter,
    (∀ number, .float number ∈ literalsOfAll children → number.isFinite = true →
      number.IsReadBack) →
    ∀ value ∈ Json.itemNumbers (childrenToJson children), value.Survives
  -- The literals of the children are split between the first one and the rest.
  | [], _ => List.forall_mem_nil _
  | child :: rest, back => by
    rw [childrenToJson, Json.itemNumbers, List.forall_mem_append]
    exact ⟨survives_toJson child fun number member => back number (List.mem_append_left _ member),
      survives_childrenToJson rest fun number member =>
        back number (List.mem_append_right _ member)⟩
end

/-- A filter is read back from its text as what a text keeps of it. -/
theorem read?_eq_normal {filter : Filter} (deep : filter.toJson.depth ≤ Json.nestingLimit)
    (back : ∀ number, .float number ∈ filter.literals → number.isFinite = true →
      number.IsReadBack) : read? filter.jsonText = some filter.normal := by
  -- What was written is read as a value, which is then taken for a filter.
  rw [read?, jsonText, Json.read?_text deep (survives_toJson filter back), Option.bind_some,
    ofJson?_plain]

/--
A filter is read back from its text in a normal form, in which it is read back as it is.

Only literals change: dates and timestamps become strings, doubles that are not finite become null,
and a condition whose value is null has none.
-/
theorem read?_jsonText {filter : Filter} (deep : filter.toJson.depth ≤ Json.nestingLimit)
    (back : ∀ number, .float number ∈ filter.literals → number.isFinite = true →
      number.IsReadBack) :
    read? filter.jsonText = some filter.normal ∧ filter.normal.IsNormal ∧
      filter.normal.normal = filter.normal ∧
      (filter.IsNormal → read? filter.jsonText = some filter) := by
  -- A normal filter is its own normal form, so it is read as it was.
  have read := read?_eq_normal deep back
  refine ⟨read, isNormal_normal filter, normal_of_isNormal _ (isNormal_normal filter), fun kept => ?_⟩
  rw [read, normal_of_isNormal filter kept]

/-- One half is read back from its text. -/
theorem half_isReadBack :
    Double.IsReadBack (.finite false ⟨0x3FE0000000000000, by decide⟩) := by
  -- The digits and what they stand for are computed once, and the reader is not.
  have proper : Json.NumberToken.Proper ⟨false, ['0'], ['5'], none⟩ :=
    ⟨by decide, List.forall_mem_singleton.2 rfl, List.forall_mem_singleton.2 rfl, fun _ => rfl⟩
  have chars : Json.chars (.number (.float (.finite false ⟨0x3FE0000000000000, by decide⟩))) =
      Json.NumberToken.chars ⟨false, ['0'], ['5'], none⟩ := by
    decide +kernel
  have stands : Json.NumberToken.number? ⟨false, ['0'], ['5'], none⟩ =
      some (.float (.finite false ⟨0x3FE0000000000000, by decide⟩)) := by
    decide +kernel
  rw [Double.IsReadBack, Json.read?, Json.text, chars, (Json.Spelled.numeral proper).read?,
    Option.bind_some, Json.Written.value?, stands]
  rfl

/-- A sale is asked about its price, its days and its tags, with a date and numbers that are none. -/
theorem read?_jsonText_sale :
    let half : Double := .finite false ⟨0x3FE0000000000000, by decide⟩
    read? (group .or true [condition "price" .greaterThan (some (.float half)) false,
      condition "day" .isIn (some (.list [.date ⟨2024, 2, 29, by decide⟩, .float .nan,
        .list [.string "group"], .list []])) true,
      nested "tags" .all (condition "" .equal (some (.float .nan)) true) true]).jsonText =
    some (group .or true [condition "price" .greaterThan (some (.float half)) false,
      condition "day" .isIn (some (.list [.string "2024-02-29", .null,
        .list [.string "group"], .list []])) true,
      nested "tags" .all (condition "" .equal none true) true]) := by
  intro half
  refine (read?_jsonText (by decide) fun number member finite => ?_).1
  -- The only finite number among the literals is one half.
  have same : number = half := by
    rcases number with _ | _ | _
    · cases finite
    · cases finite
    · simpa [literals, literalsOfAll, Literal.parts, Literal.itemParts] using member
  exact same ▸ half_isReadBack

end Filter

end RecordFilter
