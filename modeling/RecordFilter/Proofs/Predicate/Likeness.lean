import Mathlib.Data.List.Forall2
import RecordFilter.Proofs.Predicate.Duality
import RecordFilter.Proofs.Value.Conformity

/-! Values that no step and no question tells apart: every filter says the same about them. -/

namespace RecordFilter

/-- Lists that correspond place by place do so beyond their end, if what stands for missing items does. -/
theorem forall₂_getElem? {like : α → β → Prop} {left : List α} {right : List β} {first : α}
    {second : β} (each : List.Forall₂ like left right) (missing : like first second)
    (place : Nat) : like (left[place]?.getD first) (right[place]?.getD second) := by
  -- Inside both lists the pair at the place, past their end the two stand-ins.
  induction each generalizing place with
  | nil => exact missing
  | cons alike _ ih =>
    cases place with
    | zero => exact alike
    | succ place => simpa using ih place

/-- Each item of either list is like some item of the other one. -/
def Matched (like : α → β → Prop) (left : List α) (right : List β) : Prop :=
  (∀ item ∈ left, ∃ other ∈ right, like item other) ∧
    ∀ other ∈ right, ∃ item ∈ left, like item other

namespace Matched

variable {like : α → β → Prop} {left : List α} {right : List β}

/-- Lists that correspond item by item are matched. -/
theorem of_forall₂ (each : List.Forall₂ like left right) : Matched like left right := by
  -- Each item's partner stands at its own place.
  induction each with
  | nil => exact ⟨nofun, nofun⟩
  | @cons item other _ _ first _ ih =>
    constructor
    · rw [List.forall_mem_cons]
      exact ⟨⟨other, List.mem_cons_self, first⟩, fun item member =>
        (ih.1 item member).imp fun _ found => ⟨List.mem_cons_of_mem _ found.1, found.2⟩⟩
    · rw [List.forall_mem_cons]
      exact ⟨⟨item, List.mem_cons_self, first⟩, fun other member =>
        (ih.2 other member).imp fun _ found => ⟨List.mem_cons_of_mem _ found.1, found.2⟩⟩

/-- One item is matched with one that is like it. -/
theorem singleton {item : α} {other : β} (alike : like item other) : Matched like [item] [other] :=
  of_forall₂ (.cons alike .nil)

/-- Items that are like each other may branch to lists that are matched. -/
theorem flatMap {likeBelow : γ → δ → Prop} {branch : α → List γ} {branchOther : β → List δ}
    (matched : Matched like left right)
    (below : ∀ item other, like item other → Matched likeBelow (branch item) (branchOther other)) :
    Matched likeBelow (left.flatMap branch) (right.flatMap branchOther) := by
  -- A leaf is tracked to the item it hangs from, across to that item's twin, and down again to a
  -- leaf below it; the other half is the same walk backwards.
  constructor
  · intro leaf member
    obtain ⟨item, memberItem, inside⟩ := List.mem_flatMap.1 member
    obtain ⟨other, memberOther, alike⟩ := matched.1 item memberItem
    obtain ⟨twin, insideOther, same⟩ := (below item other alike).1 leaf inside
    exact ⟨twin, List.mem_flatMap.2 ⟨other, memberOther, insideOther⟩, same⟩
  · intro leaf member
    obtain ⟨other, memberOther, inside⟩ := List.mem_flatMap.1 member
    obtain ⟨item, memberItem, alike⟩ := matched.2 other memberOther
    obtain ⟨twin, insideItem, same⟩ := (below item other alike).2 leaf inside
    exact ⟨twin, List.mem_flatMap.2 ⟨item, memberItem, insideItem⟩, same⟩

/-- Items that are like each other may be made into ones that are. -/
theorem map {likeBelow : γ → δ → Prop} {change : α → γ} {changeOther : β → δ}
    (matched : Matched like left right)
    (below : ∀ item other, like item other → likeBelow (change item) (changeOther other)) :
    Matched likeBelow (left.map change) (right.map changeOther) := by
  -- A map is a `flatMap` into single leaves.
  rw [List.map_eq_flatMap, List.map_eq_flatMap]
  exact matched.flatMap fun item other alike => singleton (below item other alike)

/-- Of matched lists either both have an item that passes a test or neither has. -/
theorem any_eq {test : α → Bool} {testOther : β → Bool} (matched : Matched like left right)
    (same : ∀ item ∈ left, ∀ other ∈ right, like item other → test item = testOther other) :
    left.any test = right.any testOther := by
  -- A passing item on one side has a twin on the other, which passes too.
  rw [Bool.eq_iff_iff, List.any_eq_true, List.any_eq_true]
  constructor
  · rintro ⟨item, member, passes⟩
    obtain ⟨other, memberOther, alike⟩ := matched.1 item member
    exact ⟨other, memberOther, (same item member other memberOther alike).symm.trans passes⟩
  · rintro ⟨other, memberOther, passes⟩
    obtain ⟨item, member, alike⟩ := matched.2 other memberOther
    exact ⟨item, member, (same item member other memberOther alike).trans passes⟩

/-- Matched lists are asked alike, whatever quantifier asks. -/
theorem among_eq {likeLeaf : Leaf → Leaf → Prop} {leaves others : List Leaf}
    {ask askOther : Leaf → Bool} (matched : Matched likeLeaf leaves others) (operator : Operator)
    (same : ∀ leaf ∈ leaves, ∀ other ∈ others, likeLeaf leaf other → ask leaf = askOther other) :
    operator.among ask leaves = operator.among askOther others := by
  unfold Operator.among
  split
  · -- That all pass is that none fails.
    rw [List.all_eq_not_any_not, List.all_eq_not_any_not]
    exact congrArg not (matched.any_eq fun leaf member other memberOther alike =>
      congrArg not (same leaf member other memberOther alike))
  · exact matched.any_eq same

end Matched

namespace DataType

/-- Once all layers of lists are taken off, no list is left. -/
theorem core_ne_list (type element : DataType) : type.core ≠ .list element := by
  -- The recursion goes on through every list, so it stops at something else.
  induction type using core.induct with
  | case1 inner ih => exact ih
  | case2 type single =>
    cases type with
    | list inner => exact absurd rfl (single inner)
    | _ =>
      intro list
      cases list

/-- There are no layers of lists to take off a second time. -/
theorem core_core (type : DataType) : type.core.core = type.core := by
  cases same : type.core with
  | list element => exact absurd same (core_ne_list type element)
  | _ => rfl

end DataType

/-- The value is a list or a record. -/
def Value.isComposite : Value → Bool
  | .list _ | .record _ => true
  | _ => false

/-- No literal stands for a list or a record. -/
theorem Literal.isComposite_of_coerce {type : DataType} {literal : Literal} {value : Value}
    (read : literal.coerce type = .ok value) : value.isComposite = false := by
  -- Of the types of lists and records only null is read.
  obtain ⟨conforms | ⟨-, number, rfl⟩, -⟩ := Value.coerce_conforms read
  · cases conforms with
    | list | record => cases literal <;> cases read
    | _ => rfl
  · rfl

namespace Value

variable {value other : Value} {type : DataType} {literal : Literal}

/-- Nothing that a literal stands for is equal to a list or a record. -/
theorem equals_composite (composite : value.isComposite = true) :
    literal.equals type value = false := by
  -- A literal is coerced to a scalar or null, never to a list or record, and `Value.equal` keeps
  -- the kinds apart.
  unfold Literal.equals
  cases read : literal.coerce type with
  | error => rfl
  | ok bound =>
    have plain : bound.isComposite = false := Literal.isComposite_of_coerce read
    show value.equal bound = false
    cases value with
    | list | record =>
      cases bound with
      | list | record => cases plain
      | _ => rfl
    | _ => cases composite

/-- Lists and records have no order beside anything. -/
theorem ranks_composite (composite : value.isComposite = true) (acceptable : Ordering → Bool) :
    literal.ranks type acceptable value = false := by
  -- `compare?` answers none on a list or a record whatever the bound, and a literal that is not
  -- coerced has no bound to rank by.
  have unordered : ∀ bound, value.compare? bound = none := by
    intro bound
    cases value with
    | list | record => cases bound <;> rfl
    | _ => cases composite
  unfold Literal.ranks
  cases literal.coerce type with
  | error => rfl
  | ok bound =>
    show (value.compare? bound).any acceptable = false
    rw [unordered]
    rfl

/-- Whatever an operator asks about a list or a record, it asks nothing about what that holds. -/
theorem asks_composite {settings : Settings} {operator : Operator}
    (composite : value.isComposite = true) (compositeOther : other.isComposite = true) :
    operator.asks settings type literal value = operator.asks settings type literal other := by
  -- A list or record has no text, no order and is not null, so every operator says the same of any
  -- two.
  have known : ∀ {value : Value}, value.isComposite = true →
      value.text? = none ∧ value.isNull = false := by
    intro value composite
    cases value with
    | list | record => exact ⟨rfl, rfl⟩
    | _ => cases composite
  obtain ⟨text, null⟩ := known composite
  obtain ⟨textOther, nullOther⟩ := known compositeOther
  cases operator <;> simp only [Operator.asks, Literal.lists, Literal.compares, Literal.occurs,
    equals_composite composite, equals_composite compositeOther, ranks_composite composite,
    ranks_composite compositeOther, text, textOther, null, nullOther]

end Value

/-- A relation of values under types that holds on in fields and elements, and that no question breaks. -/
structure Value.Congruence (settings : Settings) (like : DataType → Value → Value → Prop) :
    Prop where
  entries {element : DataType} {value other : Value} (alike : like (.list element) value other) :
    Matched (like element) value.entries other.entries
  member {name sought field : String} {declared : List (String × DataType)} {type : DataType}
    {value other : Value} (found : Fields.lookup? sought declared = some (field, type))
    (alike : like (.record name declared) value other) :
    like type (value.member field) (other.member field)
  isNull {type : DataType} {value other : Value} (alike : like type value other) :
    value.isNull = other.isNull
  asks {operator : Operator} {type : DataType} {literal : Literal} {value other : Value}
    (single : ∀ element, type ≠ .list element) (accepted : operator.Accepts settings type literal)
    (alike : like type value other) :
    operator.asks settings type literal value = operator.asks settings type literal other

/-- Lists that are related have related items at each place. -/
def Value.Itemwise (like : DataType → Value → Value → Prop) : Prop :=
  ∀ element value other place, like (.list element) value other →
    like element (value.entry place) (other.entry place)

/-- A relation of values under types that holds on beyond every step, and that no question breaks. -/
structure Value.Indiscernible (settings : Settings) (like : DataType → Value → Value → Prop) :
    Prop extends Congruence settings like where
  entry {element : DataType} {value other : Value} (place : UInt64)
    (alike : like (.list element) value other) : like element (value.entry place) (other.entry place)

/-- No segment of the path has an index; a text that is no path has no segments. -/
def Path.Unindexed (text : String) : Prop :=
  ∀ path, read text = .ok path → ∀ segment ∈ path.segments, segment.index = none

/-- A text that is a path of segments without an index has none. -/
theorem Path.Unindexed.of_read {text : String} {path : Path} (good : read text = .ok path)
    (none : ∀ segment ∈ path.segments, segment.index = none) : Unindexed text := by
  -- The text reads as one path only, so a check of its segments settles it.
  intro again goodAgain
  obtain rfl : path = again := by simpa [good] using goodAgain
  exact none

/-- No path in the filter has an index, those of bodies included. -/
inductive Filter.Unindexed : Filter → Prop
  | condition {path : String} {operator : Operator} {value : Option Literal} {negated : Bool}
      (plain : Path.Unindexed path) : Unindexed (.condition path operator value negated)
  | nested {path : String} {operator : Operator} {body : Filter} {negated : Bool}
      (plain : Path.Unindexed path) (below : Unindexed body) :
      Unindexed (.nested path operator body negated)
  | group {combinator : Combinator} {negated : Bool} {children : List Filter}
      (below : ∀ child ∈ children, Unindexed child) :
      Unindexed (.group combinator negated children)

/-- Leaves of one type whose values are related under it. -/
structure Leaf.Alike (like : DataType → Value → Value → Prop) (type : DataType)
    (leaf other : Leaf) : Prop where
  typed : leaf.type = type
  typedOther : other.type = type
  related : like type leaf.value other.value

namespace Value.Congruence

variable {settings : Settings} {like : DataType → Value → Value → Prop}

/-- The values at the end of a route are matched when those at its start are related. -/
theorem values_matched (congruence : Congruence settings like) {segments : List Segment}
    (items : (∀ segment ∈ segments, segment.index = none) ∨ Itemwise like)
    {type reached : DataType} {entered : Bool}
    (leads : Path.Leads segments type entered reached) {value other : Value}
    (alike : like type value other) :
    Matched (like reached) ((Route.ofSegments segments type).values value)
      ((Route.ofSegments segments type).values other) := by
  -- Each constructor is one step of the route, beyond which the relation still holds.
  induction leads generalizing value other with
  | done => exact .singleton alike
  | enter further ih =>
    rw [Route.ofSegments_list, Route.values, Route.values, Focus.elements_value,
      Focus.elements_value]
    exact (congruence.entries alike).flatMap fun _ _ below => ih items below
  | field plain found further ih =>
    rw [Route.ofSegments_field plain found, Route.values, Route.values, Focus.take_field,
      Focus.take_field]
    exact ih (items.imp_left fun none => (List.forall_mem_cons.1 none).2)
      (congruence.member found alike)
  | @item segment rest place _ _ _ element _ _ indexed found further ih =>
    rw [Route.ofSegments_item indexed found, Route.values, Route.values, Route.values, Route.values,
      Focus.take_field, Focus.take_item, Focus.take_field, Focus.take_item]
    -- This is the one step that asks for a place in a list.
    rcases items with none | itemwise
    · rw [none segment List.mem_cons_self] at indexed
      cases indexed
    · exact ih (.inr itemwise) (itemwise _ _ _ place (congruence.member found alike))

/-- What lists hold in all their layers is matched when the lists are related. -/
theorem throughout_matched (congruence : Congruence settings like) {type : DataType}
    {value other : Value} (alike : like type value other) :
    Matched (Leaf.Alike like type.core)
      (type.throughout (fun core value => [⟨core, value⟩]) value)
      (type.throughout (fun core value => [⟨core, value⟩]) other) := by
  -- The lists are entered one by one, and the entries are matched at each level.
  induction type using DataType.core.induct generalizing value other with
  | case1 element ih => exact (congruence.entries alike).flatMap fun _ _ below => ih below
  | case2 type single =>
    cases type with
    | list element => exact absurd rfl (single element)
    | _ => exact .singleton ⟨rfl, rfl, alike⟩

/-- An operator finds what it looks for at the ends of related values, or at neither. -/
theorem any_ends_eq (congruence : Congruence settings like) {operator : Operator}
    (plain : operator.isQuantifier = false) {type : DataType} {literal : Literal}
    (accepted : operator.Accepts settings type literal) {value other : Value}
    (alike : like type value other) :
    (operator.ends type value).any (fun leaf =>
        operator.asks settings leaf.type literal leaf.value) =
      (operator.ends type other).any fun leaf =>
        operator.asks settings leaf.type literal leaf.value := by
  by_cases check : operator.isNullCheck = true
  · -- A null check asks about the value as it is, be it a list or not.
    have null := congruence.isNull alike
    cases operator with
    | isNull | notNull => simp [Operator.ends, Operator.demand, Operator.asks, null]
    | _ => cases check
  · rw [Bool.not_eq_true] at check
    have beside : operator.Accepts settings type.core literal := by
      rw [Operator.Accepts, DataType.core_core]
      exact accepted
    rw [Operator.ends_eq_throughout plain check, Operator.ends_eq_throughout plain check]
    refine (congruence.throughout_matched alike).any_eq fun leaf _ other _ same => ?_
    rw [same.typed, same.typedOther]
    exact congruence.asks (DataType.core_ne_list type) beside same.related

/-- The leaves that a quantifier hands to its body are matched when the values at the end are related. -/
theorem handed_matched (congruence : Congruence settings like) {operator : Operator}
    (quantifies : operator.isQuantifier = true) {type inner : DataType} {entered : Bool}
    (handed : type.bodyType? entered = some inner) {value other : Value}
    (alike : like type value other) :
    Matched (Leaf.Alike like inner) (operator.ends type value) (operator.ends type other) := by
  -- A list hands its entries on, anything else itself.
  have demanded : operator.demand = .body := by
    simpa [Operator.isQuantifier_eq] using quantifies
  cases type with
  | list element =>
    simp only [DataType.bodyType?, Option.some.injEq] at handed
    subst handed
    simp only [Operator.ends, demanded]
    exact (congruence.entries alike).map fun _ _ below => ⟨rfl, rfl, below⟩
  | _ =>
    simp only [DataType.bodyType?, Option.ite_none_right_eq_some, Option.some.injEq] at handed
    obtain ⟨-, rfl⟩ := handed
    simp only [Operator.ends, demanded]
    exact .singleton ⟨rfl, rfl, alike⟩

/-- A filter that makes sense says the same about related values, if places in lists do not count. -/
theorem reading_eq (congruence : Congruence settings like) {type : DataType} {filter : Filter}
    (items : filter.Unindexed ∨ Itemwise like) (formed : filter.WellFormed settings type)
    {value other : Value} (alike : like type value other) :
    filter.reading settings type value = filter.reading settings type other := by
  -- The type in focus changes with every body, and the relation follows it.
  induction formed generalizing value other with
  | condition plain reaches accepted =>
    obtain ⟨read, good, leads⟩ := reaches
    have places : (∀ segment ∈ read.segments, segment.index = none) ∨ Itemwise like := by
      refine items.imp_left fun unindexed => ?_
      cases unindexed with
      | condition none => exact none read good
    simp only [Filter.reading, Operator.among_eq_any plain, Operator.leavesAt, good,
      leads.leaves_eq, List.any_flatMap]
    exact congrArg (· != _) ((congruence.values_matched places leads alike).any_eq
      fun _ _ _ _ ending => congruence.any_ends_eq plain accepted ending)
  | @nested _ _ body _ _ _ _ _ quantifies reaches handed below ih =>
    obtain ⟨read, good, leads⟩ := reaches
    have places : ((∀ segment ∈ read.segments, segment.index = none) ∨ Itemwise like) ∧
        (body.Unindexed ∨ Itemwise like) := by
      rcases items with unindexed | itemwise
      · cases unindexed with
        | nested none inside => exact ⟨.inl (none read good), .inl inside⟩
      · exact ⟨.inr itemwise, .inr itemwise⟩
    simp only [Filter.reading, Operator.leavesAt, good, leads.leaves_eq]
    refine congrArg (· != _) (((congruence.values_matched places.1 leads alike).flatMap
      fun _ _ ending => congruence.handed_matched quantifies handed ending).among_eq _
        fun leaf _ other _ same => ?_)
    rw [same.typed, same.typedOther]
    exact ih places.2 same.related
  | group allowed below ih =>
    simp only [Filter.reading, Filter.readings_eq_map]
    rw [List.map_congr_left fun child member => ih child member (items.imp_left fun unindexed => by
      cases unindexed with
      | group each => exact each child member) alike]

end Value.Congruence

namespace Value.Indiscernible

variable {settings : Settings} {like : DataType → Value → Value → Prop}

/-- A filter that makes sense says the same about related values. -/
theorem reading_eq (hides : Indiscernible settings like) {type : DataType} {filter : Filter}
    (formed : filter.WellFormed settings type) {value other : Value}
    (alike : like type value other) :
    filter.reading settings type value = filter.reading settings type other :=
  -- With `entry` at hand, indices are seen no more than items are.
  hides.toCongruence.reading_eq (.inr fun _ _ _ place => hides.entry place) formed alike

end Value.Indiscernible

end RecordFilter
