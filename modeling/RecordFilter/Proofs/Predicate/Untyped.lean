import RecordFilter.Proofs.Predicate.Finding
import RecordFilter.Proofs.Predicate.Whole

/-! Compiled filters beside those interpreted without a schema: on dense records the two agree. -/

namespace RecordFilter

namespace Filter

variable {settings : Settings}

/-- What is asked of a node of its own: an elementary literal, and a path that is shallow. -/
def Evident (type : DataType) : Filter → Prop
  | .condition path _ literal _ =>
    (∀ given, literal = some given → given.Elementary) ∧
      ∀ read, Path.read path = .ok read → Path.Shallow read.segments type
  | .nested path _ _ _ => ∀ read, Path.read path = .ok read → Path.Shallow read.segments type
  | .group _ _ _ => True

/-- Joining what filters are found to say settles the joined answers. -/
theorem interpretAll?_settles {combinator : Combinator} {children : List Filter} {value : Value}
    {type : DataType}
    (each : ∀ child ∈ children,
      Settles sure (child.interpret? value) (child.reading settings type value))
    (joined : Bool) :
    Settles sure (interpretAll? value combinator joined children)
      ((readings settings type value children).foldl combinator.apply joined) := by
  -- The answers are joined from the left, so the induction is for every answer joined so far.
  induction children generalizing joined with
  | nil => exact .some joined
  | cons child rest ih =>
    obtain ⟨first, others⟩ := List.forall_mem_cons.1 each
    exact first.bind (ih others _)

/-- Without a schema a filter is found to say of regular values what it says by their types. -/
theorem interpret?_settles {type : DataType} {filter : Filter}
    (formed : WellFormed settings type filter) (elementary : type.Elementary)
    (evident : ∀ indices focus node, Stands type filter indices focus node →
      node.Evident focus)
    {value : Value} (regular : Value.Regular type value) :
    Settles (settings.patternLimit.toNat ≤ Pattern.freeLimit) (filter.interpret? value)
      (filter.reading settings type value) := by
  -- The type in focus changes with every body, and regular values are handed on to it.
  induction formed generalizing value with
  | @condition path operator literal negated type reached entered plain reaches accepted =>
    obtain ⟨read, good, leads⟩ := reaches
    obtain ⟨given, shallow⟩ := evident [] _ _ .here
    have simple : (literal.getD .null).Elementary := by
      cases literal with
      | none => exact .null
      | some literal => exact given literal rfl
    rw [reading, Operator.leavesAt, good]
    dsimp only
    rw [leads.leaves_eq, Operator.among_flatMap, interpret?, good]
    refine (Segment.follow?_settles leads elementary (shallow read good) ?_ regular).bind
      (.some _)
    exact fun value regular =>
      Operator.finish?_settles plain (leads.elementary elementary) simple accepted regular
  | @nested path operator body negated type reached inner entered quantifies reaches handed _ ih =>
    obtain ⟨read, good, leads⟩ := reaches
    have shallow := evident [] _ _ .here
    have innerElementary : inner.Elementary := (leads.elementary elementary).of_bodyType? handed
    have below : ∀ value, Value.Regular inner value →
        Settles (settings.patternLimit.toNat ≤ Pattern.freeLimit) (body.interpret? value)
          (body.reading settings inner value) := by
      intro value regular
      refine ih innerElementary (fun indices focus node stands => ?_) regular
      exact evident (0 :: indices) focus node
        (.under (.body quantifies ⟨read, good, leads⟩ handed) stands)
    rw [reading, Operator.leavesAt, good]
    dsimp only
    rw [leads.leaves_eq, Operator.among_flatMap, interpret?, good]
    refine (Segment.follow?_settles leads elementary (shallow read good) ?_ regular).bind
      (.some _)
    intro value regular
    rw [if_pos quantifies]
    exact Operator.hand?_settles (fun leaf => body.reading settings leaf.type leaf.value) quantifies
      handed below regular
  | @group combinator negated children type allowed _ ih =>
    rw [reading, interpret?]
    refine (interpretAll?_settles (fun child member => ?_) _).bind (.some _)
    obtain ⟨index, found⟩ := List.getElem?_of_mem member
    refine ih child member elementary (fun indices focus node stands => ?_) regular
    exact evident (index :: indices) focus node (.under (.child found) stands)

/--
A compiled filter answers on a dense record what the bare tree says of it without any schema.

The tree never says anything else. It says something in any case, unless the settings allow for patterns
larger than those that stand alone.
-/
theorem compile_untyped {schema : Schema} {filter : Filter} {predicate : Predicate}
    (compiled : filter.compile settings schema = .ok predicate)
    (elementary : schema.type.Elementary)
    (evident : ∀ indices focus node, Stands schema.type filter indices focus node →
      node.Evident focus)
    {record : Record} (dense : Value.Dense schema.type (.record record.fields)) :
    (settings.patternLimit.toNat ≤ Pattern.freeLimit →
        filter.interpret? (.record record.fields) = some (predicate.test record)) ∧
      ∀ answer, filter.interpret? (.record record.fields) = some answer →
        answer = predicate.test record := by
  -- The predicate answers as the reading does, and the interpretation settles on the reading.
  obtain ⟨plan, planned, rfl⟩ := Outcome.map_eq_ok.1 compiled
  have formed : WellFormed settings schema.type filter := (exists_plan filter .root).1 ⟨plan, planned⟩
  have answer : plan.holds (.record record) =
      filter.reading settings schema.type (.record record.fields) :=
    (plan_holds_whole filter planned record).trans (plan_holds filter planned _)
  have settles := interpret?_settles formed elementary evident (.dense dense)
  rw [← answer] at settles
  exact ⟨settles.given, settles.only⟩

/-- Orders in a list, all of which are asked for their amounts and the first one for its name. -/
theorem compile_untyped_customer :
    let order : DataType := .record "Order" [("amt", .int), ("sku", .string)]
    let schema : Schema := ⟨"Customer", [("age", .int), ("orders", .list order)]⟩
    let filter : Filter := .group .and false [
      .nested "Orders" .all (.condition "AMT" .lessThan (some (.int 5)) true) false,
      .condition "orders[0].sku" .isIn (some (.list [.null, .string "b"])) true]
    let record : Record := ⟨[("orders", .list [.record [("sku", .string "a"), ("amt", .int 7)],
      .record [("amt", .null)]])]⟩
    ∃ predicate : Predicate, filter.compile .standard schema = .ok predicate ∧
      filter.interpret? (.record record.fields) = some (predicate.test record) := by
  intro order schema filter record
  have int : DataType.int.Elementary := .scalar rfl (by simp)
  have string : DataType.string.Elementary := .scalar rfl (by simp)
  have simple : order.Elementary :=
    .record (by decide) (List.forall_mem_cons.2 ⟨int, List.forall_mem_singleton.2 string⟩)
  have elementary : schema.type.Elementary :=
    .record (by decide) (List.forall_mem_cons.2 ⟨int, List.forall_mem_singleton.2 (.list simple)⟩)
  have first : Path.Shallow [⟨"orders", some 0⟩, ⟨"sku", none⟩] schema.type := by
    rintro (_ | ⟨one, _ | ⟨two, before⟩⟩) segment after entered reached same indexed leads
    · -- What is taken from the list is an order, in which there are only scalars.
      obtain ⟨rfl, -⟩ := List.cons.inj same
      cases leads with
      | field plain => cases plain
      | item _ found further =>
        cases further
        cases found
        exact .record (List.forall_mem_cons.2 ⟨.scalar rfl, List.forall_mem_singleton.2 (.scalar rfl)⟩)
    · obtain ⟨-, last⟩ := List.cons.inj same
      obtain ⟨rfl, -⟩ := List.cons.inj last
      exact absurd rfl indexed
    · simp at same
  have evident : ∀ indices focus node, Stands schema.type filter indices focus node →
      node.Evident focus := by
    intro indices focus node stands
    dsimp only [filter] at stands
    cases stands with
    | here => trivial
    | @under _ _ _ _ _ _ index _ next further =>
      cases next with
      | child found =>
        match index with
        | 0 =>
          obtain rfl := Option.some.inj found
          cases further with
          | here =>
            rintro _ ⟨⟩
            exact .of_plain (by decide)
          | under next further =>
            cases next with
            | body =>
              cases further with
              | here =>
                refine ⟨?_, ?_⟩
                · rintro _ ⟨⟩
                  exact .int
                · rintro _ ⟨⟩
                  exact .of_plain (by decide)
              | under next => cases next
        | 1 =>
          obtain rfl := Option.some.inj found
          cases further with
          | here =>
            refine ⟨?_, ?_⟩
            · rintro _ ⟨⟩
              exact .list (List.forall_mem_cons.2 ⟨.null, List.forall_mem_singleton.2 .string⟩)
            · rintro _ ⟨⟩
              exact first
          | under next => cases next
        | index + 2 => cases found
  have dense : Value.Dense schema.type (.record record.fields) := by
    refine .record (by decide) (List.forall_mem_cons.2 ⟨.scalar rfl .null,
      List.forall_mem_singleton.2 (.list (List.forall_mem_cons.2 ⟨?_,
        List.forall_mem_singleton.2 ?_⟩))⟩)
    · exact .record (by decide) (List.forall_mem_cons.2 ⟨.scalar rfl .int,
        List.forall_mem_singleton.2 (.scalar rfl .string)⟩)
    · exact .record (by decide) (List.forall_mem_cons.2 ⟨.scalar rfl .null,
        List.forall_mem_singleton.2 (.scalar rfl .null)⟩)
  obtain ⟨predicate, compiled⟩ : ∃ predicate : Predicate,
      filter.compile .standard schema = .ok predicate := by
    dsimp only [filter, schema, order]
    exact ⟨_, rfl⟩
  exact ⟨predicate, compiled,
    (compile_untyped compiled elementary evident dense).1 (by decide)⟩

end Filter

end RecordFilter
