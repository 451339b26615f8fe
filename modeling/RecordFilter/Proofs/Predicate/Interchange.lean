import RecordFilter.Proofs.Predicate.Agreement
import RecordFilter.Proofs.Predicate.Location

/-! Filters that stand for each other: where one node may take the place of another in any tree. -/

namespace RecordFilter

/-- Questions that agree on every leaf that is asked have one answer. -/
theorem Operator.among_congr {operator : Operator} {ask other : Leaf → Bool} {leaves : List Leaf}
    (same : ∀ leaf ∈ leaves, ask leaf = other leaf) :
    operator.among ask leaves = operator.among other leaves := by
  -- Neither way of asking looks at anything but the leaves.
  unfold among
  split
  · rw [Bool.eq_iff_iff, List.all_eq_true, List.all_eq_true]
    exact forall₂_congr fun leaf member => by rw [same leaf member]
  · rw [Bool.eq_iff_iff, List.any_eq_true, List.any_eq_true]
    exact exists_congr fun leaf => and_congr_right fun member => by rw [same leaf member]

/-- The path hands values of a type to a body, those of a list one by one. -/
def Path.Hands (path : String) (type inner : DataType) : Prop :=
  ∃ entered reached, Reaches path type entered reached ∧ reached.bodyType? entered = some inner

namespace Path.Hands

variable {path : String} {type inner : DataType}

/-- What a path hands to a body is settled by the path and the type it starts from. -/
theorem unique {other : DataType} (hands : Hands path type inner) (again : Hands path type other) :
    inner = other := by
  -- The path decides where it leads, and that decides what it hands on.
  obtain ⟨entered, reached, reaches, handed⟩ := hands
  obtain ⟨crossed, second, reachesAgain, handedAgain⟩ := again
  obtain ⟨rfl, rfl⟩ := reaches.unique reachesAgain
  exact Option.some.inj (handed.symm.trans handedAgain)

/-- The leaves of a quantifier all have the type that its body is about. -/
theorem type_of_leaf (hands : Hands path type inner) {operator : Operator}
    (quantifies : operator.isQuantifier = true) {value : Value} {leaf : Leaf}
    (member : leaf ∈ operator.leavesAt path type value) : leaf.type = inner := by
  -- Every leaf lies below a value at the end of the path, where a list is opened once.
  obtain ⟨entered, reached, ⟨read, good, leads⟩, handed⟩ := hands
  have demanded : operator.demand = .body := by
    simpa [Operator.isQuantifier_eq] using quantifies
  simp only [Operator.leavesAt, good, leads.leaves_eq, List.mem_flatMap] at member
  obtain ⟨ending, -, member⟩ := member
  cases reached with
  | list element =>
    simp only [DataType.bodyType?, Option.some.injEq] at handed
    simp only [Operator.ends, demanded, List.mem_map] at member
    obtain ⟨item, -, rfl⟩ := member
    exact handed
  | _ =>
    simp only [DataType.bodyType?, Option.ite_none_right_eq_some, Option.some.injEq] at handed
    simp only [Operator.ends, demanded, List.mem_singleton] at member
    rw [member]
    exact handed.2

end Path.Hands

namespace Filter

/-- The filter with another node at the place that the indices lead to. -/
def put : List Nat → Filter → Filter → Filter
  -- A place that there is not leaves the filter as it is.
  | [], _, node => node
  | index :: rest, .group combinator negated children, node =>
    .group combinator negated (children.modify index fun child => put rest child node)
  | 0 :: rest, .nested path operator body negated, node =>
    .nested path operator (put rest body node) negated
  | _ :: _, filter, _ => filter

/-- Under a type two filters make sense together or not at all, and say the same about every value. -/
structure Interchangeable (settings : Settings) (type : DataType) (first second : Filter) :
    Prop where
  formed : WellFormed settings type first ↔ WellFormed settings type second
  reading : ∀ value, first.reading settings type value = second.reading settings type value

/-- The filter compiles against a schema. -/
def Compiles (settings : Settings) (schema : Schema) (filter : Filter) : Prop :=
  ∃ predicate, filter.compile settings schema = .ok predicate

/-- Two filters compile together or not at all, and their predicates agree on every value. -/
structure Alike (settings : Settings) (schema : Schema) (first second : Filter) : Prop where
  compiles : first.Compiles settings schema ↔ second.Compiles settings schema
  agree : ∀ one other, first.compile settings schema = .ok one →
    second.compile settings schema = .ok other →
    ∀ value, one.testValue value = other.testValue value

/-- A filter compiles when it has a plan, to which its predicate adds the name of the schema. -/
theorem compiles_iff {settings : Settings} {schema : Schema} {filter : Filter} :
    filter.Compiles settings schema ↔
      ∃ plan, filter.plan settings schema.type .root = .ok plan := by
  -- Compiling is planning at the root and keeping the schema's name.
  simp only [Compiles, compile, Outcome.map_eq_ok]
  exact ⟨fun ⟨_, plan, planned, _⟩ => ⟨plan, planned⟩, fun ⟨plan, planned⟩ => ⟨_, plan, planned, rfl⟩⟩

/-- The filters that compile against a schema are those that make sense under its type. -/
theorem compiles_iff_wellFormed {settings : Settings} {schema : Schema} {filter : Filter} :
    filter.Compiles settings schema ↔ WellFormed settings schema.type filter :=
  compiles_iff.trans (exists_plan filter .root)

/-- A quantifier makes sense when its path hands something to its body, which makes sense for that. -/
theorem wellFormed_nested_iff {settings : Settings} {type : DataType} {path : String}
    {operator : Operator} {body : Filter} {negated : Bool} :
    WellFormed settings type (.nested path operator body negated) ↔
      operator.isQuantifier = true ∧
        ∃ inner, Path.Hands path type inner ∧ WellFormed settings inner body := by
  -- One constructor builds it, so it is taken apart into that one's premises.
  constructor
  · intro formed
    cases formed with
    | nested quantifies reaches handed below =>
      exact ⟨quantifies, _, ⟨_, _, reaches, handed⟩, below⟩
  · intro given
    rcases given with ⟨quantifies, inner, ⟨entered, reached, reaches, handed⟩, below⟩
    exact .nested quantifies reaches handed below

/-- A group makes sense when all of its children do, and when it has some where that is demanded. -/
theorem wellFormed_group_iff {settings : Settings} {type : DataType} {combinator : Combinator}
    {negated : Bool} {children : List Filter} :
    WellFormed settings type (.group combinator negated children) ↔
      (children = [] → settings.emptyGroups = .identity) ∧
        ∀ child ∈ children, WellFormed settings type child := by
  -- One constructor again, with the policy on empty groups as its first premise.
  constructor
  · intro formed
    cases formed with
    | group allowed below => exact ⟨allowed, below⟩
  · exact fun given => .group given.1 given.2

/-- A condition makes sense when its path leads somewhere and its operator takes the literal there. -/
theorem wellFormed_condition_iff {settings : Settings} {type : DataType} {path : String}
    {operator : Operator} {literal : Option Literal} {negated : Bool} :
    WellFormed settings type (.condition path operator literal negated) ↔
      operator.isQuantifier = false ∧ ∃ entered reached, Path.Reaches path type entered reached ∧
        operator.Accepts settings reached (literal.getD .null) := by
  -- The endpoint of the path is part of the derivation, so it is brought out as a witness.
  constructor
  · intro formed
    cases formed with
    | condition plain reaches accepted => exact ⟨plain, _, _, reaches, accepted⟩
  · intro given
    rcases given with ⟨plain, entered, reached, reaches, accepted⟩
    exact .condition plain reaches accepted

/-- Where its path is known to lead, a condition makes sense if its operator takes the literal there. -/
theorem wellFormed_reaching_iff {settings : Settings} {type reached : DataType} {path : String}
    {entered : Bool} (reaches : Path.Reaches path type entered reached) {operator : Operator}
    {literal : Option Literal} {negated : Bool} :
    WellFormed settings type (.condition path operator literal negated) ↔
      operator.isQuantifier = false ∧ operator.Accepts settings reached (literal.getD .null) := by
  rw [wellFormed_condition_iff]
  refine and_congr_right fun _ => ⟨fun given => ?_, fun accepted => ⟨_, _, reaches, accepted⟩⟩
  -- A path leads to one type only.
  rcases given with ⟨crossed, other, again, accepted⟩
  obtain ⟨-, rfl⟩ := reaches.unique again
  exact accepted

/-- Where its path is known to hand something on, a quantifier makes sense if its body does there. -/
theorem wellFormed_handing_iff {settings : Settings} {type inner : DataType} {path : String}
    (hands : Path.Hands path type inner) {operator : Operator} {body : Filter} {negated : Bool} :
    WellFormed settings type (.nested path operator body negated) ↔
      operator.isQuantifier = true ∧ WellFormed settings inner body := by
  rw [wellFormed_nested_iff]
  refine and_congr_right fun _ => ⟨fun given => ?_, fun below => ⟨inner, hands, below⟩⟩
  -- A path hands on values of one type only.
  rcases given with ⟨other, again, below⟩
  obtain rfl := hands.unique again
  exact below

namespace Interchangeable

variable {settings : Settings} {type : DataType} {first second third : Filter}

/-- Which of two filters takes the other's place does not count. -/
theorem symm (same : Interchangeable settings type first second) :
    Interchangeable settings type second first :=
  ⟨same.formed.symm, fun value => (same.reading value).symm⟩

/-- A filter may take another's place through a third one. -/
theorem trans (same : Interchangeable settings type first second)
    (again : Interchangeable settings type second third) :
    Interchangeable settings type first third :=
  ⟨same.formed.trans again.formed, fun value => (same.reading value).trans (again.reading value)⟩

/-- Bodies that are interchangeable under the type they are handed make interchangeable quantifiers. -/
theorem nested {path : String} {operator : Operator} {inner : DataType} {body other : Filter}
    (quantifies : operator.isQuantifier = true) (hands : Path.Hands path type inner)
    (same : Interchangeable settings inner body other) (negated : Bool) :
    Interchangeable settings type (.nested path operator body negated)
      (.nested path operator other negated) := by
  -- The path and quantifier are shared, so both ask their bodies about the same leaves.
  refine ⟨?_, fun value => ?_⟩
  · rw [wellFormed_handing_iff hands, wellFormed_handing_iff hands, same.formed]
  · simp only [Filter.reading]
    refine congrArg (· != negated) (Operator.among_congr fun leaf member => ?_)
    rw [hands.type_of_leaf quantifies member]
    exact same.reading leaf.value

/-- A child that is replaced by an interchangeable one leaves the children as good and as true. -/
theorem modify (change : Filter → Filter) {children : List Filter} {index : Nat} {child : Filter}
    (found : children[index]? = some child)
    (same : Interchangeable settings type child (change child)) :
    ((∀ child ∈ children, WellFormed settings type child) ↔
        ∀ child ∈ children.modify index change, WellFormed settings type child) ∧
      ∀ value, readings settings type value children =
        readings settings type value (children.modify index change) := by
  -- Only the child at `index` changes, so the induction is on the way to it.
  induction children generalizing index with
  | nil => simp at found
  | cons first rest ih =>
    cases index with
    | zero =>
      obtain rfl : first = child := by simpa using found
      simp [List.modify_zero_cons, readings, same.formed, same.reading]
    | succ index =>
      obtain ⟨formed, agree⟩ := ih (by simpa using found)
      simp [List.modify_succ_cons, readings, formed, agree]

/-- Wherever a node stands in a filter, an interchangeable one may take its place. -/
theorem put {filter node other : Filter} {indices : List Nat} {focus : DataType}
    (stands : Stands type filter indices focus node)
    (same : Interchangeable settings focus node other) :
    Interchangeable settings type filter (filter.put indices other) := by
  -- From the node upwards, each filter on the way is rebuilt around interchangeable parts.
  induction stands with
  | here => exact same
  | under next further ih =>
    cases next with
    | @child combinator negated children _ index child found =>
      obtain ⟨formed, agree⟩ := modify (fun child => child.put _ other) found (ih same)
      refine ⟨?_, fun value => ?_⟩
      · -- There are as many children as before, so a group that may be empty still may.
        simp only [Filter.put, wellFormed_group_iff, List.modify_eq_nil_iff, formed]
      · simp only [Filter.put, Filter.reading, agree]
    | body quantifies reaches handed =>
      exact (ih same).nested quantifies ⟨_, _, reaches, handed⟩ _

/-- Filters that are interchangeable under the type of a schema are alike for its records. -/
theorem alike {schema : Schema} {first second : Filter}
    (same : Interchangeable settings schema.type first second) :
    Alike settings schema first second := by
  -- The plans are those that the predicates are made of, and they answer as the filters read.
  refine ⟨?_, fun one other compiled compiledOther value => ?_⟩
  · rw [compiles_iff_wellFormed, compiles_iff_wellFormed]
    exact same.formed
  · obtain ⟨plan, made, rfl⟩ := Outcome.map_eq_ok.1 compiled
    obtain ⟨planOther, madeOther, rfl⟩ := Outcome.map_eq_ok.1 compiledOther
    calc plan.holds (.value value)
        = first.reading settings schema.type value := plan_holds first made value
      _ = second.reading settings schema.type value := same.reading value
      _ = planOther.holds (.value value) := (plan_holds second madeOther value).symm

end Interchangeable

end Filter

end RecordFilter
