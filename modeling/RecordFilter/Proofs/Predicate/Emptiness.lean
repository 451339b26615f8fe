import RecordFilter.Proofs.Predicate.Blame
import RecordFilter.Proofs.Predicate.Interchange

/-! Groups without children: what their rejection makes of a compilation, and of its errors. -/

namespace RecordFilter

namespace Filter

/-- A group without children stands at the place that the indices lead to. -/
def Childless (filter : Filter) (indices : List Nat) (combinator : Combinator) : Prop :=
  ∃ negated, filter.at? indices = some (.group combinator negated [])

/-- Every group of the filter has children, those of bodies included. -/
def Filled (filter : Filter) : Prop :=
  ∀ indices combinator, ¬ filter.Childless indices combinator

/-- Every group before a place in the order of reading has children. -/
def FilledBefore (filter : Filter) (indices : List Nat) : Prop :=
  ∀ earlier < indices, ∀ combinator, ¬ filter.Childless earlier combinator

/-- The first group without children in the order of reading. -/
structure FirstChildless (filter : Filter) (indices : List Nat) (combinator : Combinator) :
    Prop where
  childless : filter.Childless indices combinator
  before : filter.FilledBefore indices

/--
How a strict outcome restricts a lenient one.

They are the same up to the first group without children, and there the strict one ends.
-/
inductive Restricts (filter : Filter) (location : Location) :
    Except CompileError α → Except CompileError α → Prop
  | made {result : α} (filled : filter.Filled) : Restricts filter location (.ok result) (.ok result)
  | failed {error : CompileError} {indices : List Nat}
      (placed : error.location.indices = location.indices ++ indices)
      (before : filter.FilledBefore indices) :
      Restricts filter location (.error error) (.error error)
  | refused {lenient : Except CompileError α} {indices : List Nat} {combinator : Combinator}
      (first : filter.FirstChildless indices combinator)
      (later : ∀ error, lenient = .error error → ∃ place,
        error.location.indices = location.indices ++ place ∧ indices < place) :
      Restricts filter location lenient
        (.error (.emptyGroup ⟨location.indices ++ indices⟩ combinator))

variable {filter child : Filter} {location : Location} {combinator : Combinator} {index : Nat}
  {rest : List Nat} {type : DataType} {limit : UInt64}

/-- What is done with the results has no part in how one outcome restricts the other. -/
theorem Restricts.map {lenient strict : Except CompileError α} (function : α → β)
    (restricts : Restricts filter location lenient strict) :
    Restricts filter location (lenient.map function) (strict.map function) := by
  -- Mapping touches results alone, so the three ways of restricting stay apart.
  cases restricts with
  | made filled => exact .made filled
  | failed placed before => exact .failed placed before
  | refused first later =>
    refine .refused first ?_
    intro error failed
    exact later error (Outcome.map_eq_error.1 failed)

/-- Only a group with no children is at fault at its own place. -/
theorem not_childless_root (own : ∀ combinator negated, filter ≠ .group combinator negated []) :
    ∀ combinator, ¬ filter.Childless [] combinator := by
  -- At the root the path of indices is empty, so the childless group would be the filter itself.
  intro combinator childless
  obtain ⟨negated, here⟩ := childless
  exact own combinator negated (Option.some.inj here)

/-- A group without children below a child is one below the filter. -/
theorem Childless.under (found : filter.child? index = some child)
    (below : child.Childless rest combinator) : filter.Childless (index :: rest) combinator := by
  -- One index further up: the step into the child goes in front.
  obtain ⟨negated, here⟩ := below
  refine ⟨negated, ?_⟩
  rw [at?, found, Option.bind_some, here]

/-- Before a place below a child every group has children if those of the siblings and of the child before it have. -/
theorem FilledBefore.under (root : ∀ combinator, ¬ filter.Childless [] combinator)
    (found : filter.child? index = some child)
    (siblings : ∀ earlier < index, ∀ sibling, filter.child? earlier = some sibling →
      sibling.Filled)
    (before : child.FilledBefore rest) : filter.FilledBefore (index :: rest) := by
  -- A group without children would have to stand at one of the places that come before.
  rintro earlier less combinator ⟨negated, here⟩
  rcases at?_before_cases found less here with ⟨rfl, rfl⟩ |
    ⟨place, others, sibling, rfl, sooner, foundSibling, below⟩ | ⟨others, rfl, within, below⟩
  · exact root combinator ⟨negated, rfl⟩
  · exact siblings place sooner sibling foundSibling others combinator ⟨negated, below⟩
  · exact before others within combinator ⟨negated, below⟩

/-- Every group has children when the root is none without, and every group of its children has some. -/
theorem filled_of_children (root : ∀ combinator, ¬ filter.Childless [] combinator)
    (children : ∀ index child, filter.child? index = some child → child.Filled) :
    filter.Filled := by
  -- A childless group stands either at the root or under one of its children.
  intro indices combinator childless
  cases indices with
  | nil => exact root combinator childless
  | cons index rest =>
    obtain ⟨negated, here⟩ := childless
    obtain ⟨child, found, further⟩ := Option.bind_eq_some_iff.1 here
    exact children index child found rest combinator ⟨negated, further⟩

/-- A condition has no groups in it. -/
theorem filled_condition {path : String} {operator : Operator} {value : Option Literal}
    {negated : Bool} : (condition path operator value negated).Filled := by
  -- Neither the root nor any child of it is a group, for it has none.
  refine filled_of_children (not_childless_root fun combinator turned => nofun) ?_
  intro index child found
  cases found

/-- Of a condition nothing is asked that the treatment of empty groups decides. -/
theorem plan_condition_treatment {path : String} {operator : Operator} {value : Option Literal}
    {negated : Bool} (treatment other : EmptyGroups) :
    (condition path operator value negated).plan ⟨treatment, limit⟩ type location =
      (condition path operator value negated).plan ⟨other, limit⟩ type location := by
  -- Both treatments hand the literal on to the same operand, beside the same limit of patterns.
  have same : ∀ site : Site, ∀ literal reached,
      site.testProbe ⟨treatment, limit⟩ literal reached =
        site.testProbe ⟨other, limit⟩ literal reached := by
    intro site literal reached
    rw [Site.testProbe_eq, Site.testProbe_eq]
    rfl
  simp only [plan, same]

/-- A quantifier fails by itself, whatever the settings are, or hands on what its body becomes. -/
theorem plan_nested_cases (path : String) (operator : Operator) (body : Filter) (negated : Bool)
    (type : DataType) (location : Location) :
    (∃ error, error.location = location ∧ ∀ settings,
      (nested path operator body negated).plan settings type location = .error error) ∨
    (operator.isQuantifier = true ∧ ∃ inner wrap, ∀ settings,
      (nested path operator body negated).plan settings type location =
        (body.plan settings inner (location.child 0)).map wrap) := by
  -- Everything before the body (path, operator, type handed on) is settled without the settings;
  -- only the body's plan sees them.
  let site : Site := ⟨location, path, operator⟩
  simp only [plan]
  rcases site.probe_cases type with ⟨error, placed, failed⟩ | ⟨entered, reached, along, ended⟩
  · refine .inl ⟨error, placed, fun settings => ?_⟩
    rw [failed]
    rfl
  · simp only [site, ended]
    cases quantifies : operator.isQuantifier with
    | false => exact .inl ⟨.unsupported site .unwantedBody, rfl, fun settings => rfl⟩
    | true =>
      cases handed : reached.bodyType? entered with
      | none =>
        refine .inl ⟨.mismatch site (.noCollection reached), rfl, fun settings => ?_⟩
        rw [if_pos rfl, Site.bodyProbe_of_none handed]
        rfl
      | some inner =>
        refine .inr ⟨rfl, inner, fun below =>
          .condition (along (reached.handing operator.quantifier below)) negated, ?_⟩
        intro settings
        rw [if_pos rfl, Site.bodyProbe_of_bodyType handed]
        cases body.plan settings inner (location.child 0) <;> rfl

/--
A child either becomes the same under both treatments, or ends the whole as the first to be at fault.

Beside what ends the child, only what comes after it may end the lenient outcome of the whole.
-/
theorem Restricts.under {lenient strict : Except CompileError α}
    (root : ∀ combinator, ¬ filter.Childless [] combinator)
    (found : filter.child? index = some child)
    (siblings : ∀ earlier < index, ∀ sibling, filter.child? earlier = some sibling →
      sibling.Filled)
    (restricts : Restricts child (location.child index) lenient strict) :
    (∃ result, child.Filled ∧ lenient = .ok result ∧ strict = .ok result) ∨
    ∃ error, strict = .error error ∧ ∀ whole : Except CompileError β,
      (∀ cause, lenient = .error cause → whole = .error cause) →
      (∀ cause, whole = .error cause → lenient = .error cause ∨ ∃ place further,
        cause.location.indices = location.indices ++ place :: further ∧ index < place) →
      Restricts filter location whole (.error error) := by
  -- A place below the child is one of the whole that begins with the index of the child.
  have inside : ∀ indices, (location.child index).indices ++ indices =
      location.indices ++ index :: indices := by
    intro indices
    simp only [Location.child, List.append_assoc, List.singleton_append]
  cases restricts with
  | @made result filled => exact .inl ⟨result, filled, rfl, rfl⟩
  | @failed error indices placed before =>
    refine .inr ⟨error, rfl, fun whole carried _ => ?_⟩
    rw [carried error rfl]
    exact .failed (placed.trans (inside indices)) (before.under root found siblings)
  | @refused _ indices combinator first later =>
    refine .inr ⟨_, rfl, fun whole _ behind => ?_⟩
    rw [inside]
    refine .refused ⟨first.childless.under found, first.before.under root found siblings⟩ ?_
    intro error failed
    rcases behind error failed with same | ⟨place, further, placed, less⟩
    · obtain ⟨place, placed, less⟩ := later error same
      exact ⟨index :: place, placed.trans (inside place), List.cons_lt_cons_iff.2 (.inr ⟨rfl, less⟩)⟩
    · exact ⟨place :: further, placed, List.cons_lt_cons_iff.2 (.inl less)⟩

/-- A quantifier that hands its body on is restricted as the body is. -/
theorem Restricts.body {path : String} {operator : Operator} {body : Filter} {negated : Bool}
    {lenient strict : Except CompileError Plan} (quantifies : operator.isQuantifier = true)
    (restricts : Restricts body (location.child 0) lenient strict) :
    Restricts (nested path operator body negated) location lenient strict := by
  have root : ∀ other, ¬ (nested path operator body negated).Childless [] other :=
    not_childless_root fun _ _ => nofun
  have found : (nested path operator body negated).child? 0 = some body := by
    rw [child?, if_pos quantifies]
  rcases restricts.under root found fun earlier less => absurd less (Nat.not_lt_zero earlier) with
    ⟨result, filled, rfl, rfl⟩ | ⟨error, rfl, ending⟩
  · refine .made (filled_of_children root ?_)
    intro index child there
    -- The body is the only child.
    cases index with
    | succ index => cases there
    | zero =>
      obtain rfl : body = child := Option.some.inj (found.symm.trans there)
      exact filled
  · exact ending lenient (fun cause same => same) fun cause same => .inl same

mutual
/-- To reject groups without children restricts what becomes of a filter. -/
theorem plan_restricts (filter : Filter) (limit : UInt64) (type : DataType) (location : Location) :
    Restricts filter location (filter.plan ⟨.identity, limit⟩ type location)
      (filter.plan ⟨.reject, limit⟩ type location) := by
  cases filter with
  | condition path operator value negated =>
    rw [plan_condition_treatment .identity .reject]
    cases planned : (condition path operator value negated).plan ⟨.reject, limit⟩ type location with
    | ok result => exact .made filled_condition
    | error error =>
      obtain ⟨indices, focus, node, placed, -, -⟩ := plan_blames _ planned
      exact .failed placed fun earlier _ combinator => filled_condition earlier combinator
  | nested path operator body negated =>
    rcases plan_nested_cases path operator body negated type location with
      ⟨error, here, failed⟩ | ⟨quantifies, inner, wrap, handed⟩
    · -- The error is one of the root, before which there is no place.
      have placed : error.location.indices = location.indices ++ [] := by
        rw [here, List.append_nil]
      rw [failed, failed]
      exact .failed placed fun earlier less => absurd less (List.not_lt_nil earlier)
    · rw [handed, handed]
      exact ((plan_restricts body limit inner (location.child 0)).body quantifies).map wrap
  | group combinator negated children =>
    cases children with
    | nil =>
      have place : location = ⟨location.indices ++ []⟩ := by rw [List.append_nil]
      have refused : (group combinator negated []).plan ⟨.reject, limit⟩ type location =
          .error (.emptyGroup ⟨location.indices ++ []⟩ combinator) := by
        rw [← place]
        rfl
      rw [refused]
      refine .refused ⟨⟨negated, rfl⟩, fun earlier less => absurd less (List.not_lt_nil earlier)⟩ ?_
      intro error failed
      cases failed
    | cons first rest =>
      have below := plans_restricts combinator negated (first :: rest) [] (List.cons_ne_nil _ _)
        (fun _ => nofun) limit type location
      exact below.map (Plan.group combinator negated)
/-- The children of a group are restricted in order, after others in which every group has children. -/
theorem plans_restricts (combinator : Combinator) (negated : Bool) (rest before : List Filter)
    (nonempty : before ++ rest ≠ []) (filled : ∀ child ∈ before, child.Filled) (limit : UInt64)
    (type : DataType) (location : Location) :
    Restricts (.group combinator negated (before ++ rest)) location
      (plans ⟨.identity, limit⟩ type location before.length rest)
      (plans ⟨.reject, limit⟩ type location before.length rest) := by
  have root : ∀ other, ¬ (group combinator negated (before ++ rest)).Childless [] other := by
    refine not_childless_root fun other turned same => ?_
    injection same with _ _ none
    exact nonempty none
  cases rest with
  | nil =>
    refine .made (filled_of_children root fun index child found => ?_)
    rw [List.append_nil] at found
    exact filled child (List.mem_of_getElem? found)
  | cons child rest =>
    have found : (group combinator negated (before ++ child :: rest)).child? before.length =
        some child := by
      simp [child?]
    have siblings : ∀ earlier < before.length, ∀ sibling,
        (group combinator negated (before ++ child :: rest)).child? earlier = some sibling →
          sibling.Filled := by
      intro earlier less sibling there
      rw [child?, List.getElem?_append_left less] at there
      exact filled sibling (List.mem_of_getElem? there)
    have here := plan_restricts child limit type (location.child before.length)
    rw [plans, plans]
    rcases here.under root found siblings with ⟨result, filledHere, made, madeStrict⟩ |
      ⟨error, refused, ending⟩
    · -- The child stands among those before, and the others decide.
      have filledAll : ∀ other ∈ before ++ [child], other.Filled := by
        intro other member
        rcases List.mem_append.1 member with earlier | last
        · exact filled other earlier
        · rw [List.mem_singleton.1 last]
          exact filledHere
      have others := plans_restricts combinator negated rest (before ++ [child]) (by simp) filledAll
        limit type location
      rw [List.append_assoc, List.singleton_append, List.length_append, List.length_singleton] at others
      rw [made, madeStrict, Outcome.cons_of_ok, Outcome.cons_of_ok]
      exact others.map (result :: ·)
    · rw [refused]
      refine ending _ ?_ ?_
      · intro cause failed
        exact Outcome.cons_eq_error.2 (.inl failed)
      · intro cause failed
        rcases Outcome.cons_eq_error.1 failed with failed | ⟨_, _, failed⟩
        · exact .inl failed
        · -- An error of another child stands below a later index.
          obtain ⟨place, other, _, _, further, _, _, placed, _, _⟩ := plans_blame rest failed
          refine .inr ⟨before.length + 1 + place, further, ?_, by omega⟩
          rw [placed, Location.child, List.append_assoc, List.singleton_append]
end

/--
To reject groups without children only restricts what compiles.

The filters in which every group has children compile as before, and answer alike.
Any other fails at its first group without children, unless it fails at an earlier place anyway.
-/
theorem compile_rejecting (limit : UInt64) (schema : Schema) (filter : Filter) :
    (filter.Compiles ⟨.reject, limit⟩ schema ↔
      filter.Compiles ⟨.identity, limit⟩ schema ∧ filter.Filled) ∧
    (∀ one other, filter.compile ⟨.identity, limit⟩ schema = .ok one →
      filter.compile ⟨.reject, limit⟩ schema = .ok other →
      ∀ value, one.testValue value = other.testValue value) ∧
    (∀ one error, filter.compile ⟨.identity, limit⟩ schema = .ok one →
      filter.compile ⟨.reject, limit⟩ schema = .error error →
      ∃ indices combinator, filter.FirstChildless indices combinator ∧
        error = .emptyGroup ⟨indices⟩ combinator) ∧
    ∀ error, filter.compile ⟨.identity, limit⟩ schema = .error error →
      (filter.compile ⟨.reject, limit⟩ schema = .error error ∧
        filter.FilledBefore error.location.indices) ∨
      ∃ indices combinator, filter.FirstChildless indices combinator ∧
        indices < error.location.indices ∧
        filter.compile ⟨.reject, limit⟩ schema = .error (.emptyGroup ⟨indices⟩ combinator) := by
  -- `Restricts` tells the three ways the two policies relate; each conjunct is read off each of
  -- them.
  have restricts : Restricts filter .root (filter.compile ⟨.identity, limit⟩ schema)
      (filter.compile ⟨.reject, limit⟩ schema) :=
    (plan_restricts filter limit schema.type .root).map fun plan => Predicate.mk plan schema.name
  unfold Compiles
  generalize filter.compile ⟨.identity, limit⟩ schema = lenient at restricts ⊢
  generalize filter.compile ⟨.reject, limit⟩ schema = strict at restricts ⊢
  cases restricts with
  | @made result filled =>
    refine ⟨⟨?_, And.left⟩, ?_, fun _ _ _ => nofun, fun _ => nofun⟩
    · intro compiles
      exact ⟨compiles, filled⟩
    · intro one other same sameStrict value
      cases same
      cases sameStrict
      rfl
  | @failed error indices placed before =>
    refine ⟨⟨nofun, fun given => given.1⟩, fun _ _ => nofun, fun _ _ => nofun, ?_⟩
    intro other same
    cases same
    rw [placed]
    exact .inl ⟨rfl, before⟩
  | @refused _ indices combinator first later =>
    refine ⟨⟨nofun, ?_⟩, fun _ _ _ => nofun, ?_, ?_⟩
    · intro given
      exact absurd first.childless (given.2 indices combinator)
    · intro one error _ same
      cases same
      exact ⟨indices, combinator, first, rfl⟩
    · intro error same
      obtain ⟨place, placed, less⟩ := later error same
      rw [placed]
      exact .inr ⟨indices, combinator, first, less, rfl⟩

/-- An empty body before a field that is not declared is the error if it is rejected, and else the field is. -/
theorem compile_rejecting_tags :
    let filter : Filter := group .and false [nested "tags" .any (group .or false []) false,
      condition "height" .isNull none false]
    let schema : Schema := ⟨"User", [("name", .string), ("tags", .list .string)]⟩
    ∃ error indices combinator, filter.compile ⟨.identity, 1024⟩ schema = .error error ∧
      error.location = ⟨[1]⟩ ∧ indices < [1] ∧
      filter.compile ⟨.reject, 1024⟩ schema = .error (.emptyGroup ⟨indices⟩ combinator) := by
  intro filter schema
  have allowed : ∃ error, filter.compile ⟨.identity, 1024⟩ schema = .error error ∧
      error.location = ⟨[1]⟩ := ⟨_, rfl, rfl⟩
  obtain ⟨error, failed, placed⟩ := allowed
  obtain ⟨-, -, -, errors⟩ := compile_rejecting 1024 schema filter
  rcases errors error failed with ⟨_, before⟩ | ⟨indices, combinator, _, less, refused⟩
  · -- The body stands before the missing field, and has no children.
    rw [placed] at before
    exact absurd ⟨false, rfl⟩ (before [0, 0] (by decide) .or)
  · rw [placed] at less
    exact ⟨error, indices, combinator, failed, placed, less, refused⟩

end Filter

end RecordFilter
