import RecordFilter.Proofs.Predicate.Location

/-! Which node a failed compilation blames: the first one, in the order of reading, that is at fault. -/

namespace RecordFilter

/-- An error that a condition makes with a path that can be read. -/
inductive CompileError.Concerns (site : Site) : CompileError → Prop
  | mismatch {cause : Mismatch} : Concerns site (.mismatch site cause)
  | unsupported {cause : Unsupported} : Concerns site (.unsupported site cause)
  | invalidPattern {pattern : String} : Concerns site (.invalidPattern site pattern)

open CompileError (Concerns)

namespace Literal

variable {site : Site} {type : DataType} {error : CompileError}

/-- A literal that stands for no value is an error of its condition. -/
theorem scalar_error {literal : Literal} (failed : literal.scalar site type = .error error) :
    error.Concerns site := by
  -- A list given for a scalar is unsupported; anything else that fails is a mismatch.
  unfold scalar at failed
  split at failed
  · cases failed
    exact .unsupported
  · obtain ⟨cause, _, rfl⟩ := Outcome.mapError_eq_error.1 failed
    exact .mismatch

/-- Candidates that do not all stand for values are an error of their condition. -/
theorem scalars_error {items : List Literal} (failed : scalars site type items = .error error) :
    error.Concerns site := by
  induction items with
  | nil => simp [scalars] at failed
  | cons item rest ih =>
    -- Either the first candidate fails, or it does not and the rest does.
    rw [scalars, Outcome.cons_eq_error] at failed
    rcases failed with failed | ⟨value, _, failed⟩
    · exact scalar_error failed
    · exact ih failed

end Literal

namespace Site

variable {settings : Settings} {site : Site} {type : DataType} {literal : Literal}
  {error : CompileError}

/-- What is not beside a text, or no text itself, is an error of its condition. -/
theorem textOperand_error (failed : site.textOperand type literal = .error error) :
    error.Concerns site := by
  -- The type is looked at before the literal; both report a mismatch.
  unfold textOperand at failed
  split at failed
  · cases failed
    exact .mismatch
  · split at failed <;> cases failed
    exact .mismatch

/-- A text that is no pattern is an error of its condition. -/
theorem patternOperand_error {text : String}
    (failed : site.patternOperand settings text = .error error) : error.Concerns site := by
  -- The only failure left is the pattern itself.
  unfold patternOperand at failed
  split at failed <;> cases failed
  exact .invalidPattern

/-- A single literal that does not go with its operator is an error of its condition. -/
theorem singleOperand_error (failed : site.singleOperand settings type literal = .error error) :
    error.Concerns site := by
  -- The checks come in a row, and each of them names the condition in its error.
  unfold singleOperand at failed
  split at failed
  · cases failed
    exact .mismatch
  split at failed
  · cases failed
    exact .mismatch
  split at failed
  · rcases Outcome.bind_eq_error.1 failed with failed | ⟨text, _, failed⟩
    · exact textOperand_error failed
    · exact patternOperand_error failed
  split at failed
  · exact textOperand_error (Outcome.map_eq_error.1 failed)
  · exact Literal.scalar_error (Outcome.map_eq_error.1 failed)

/-- A literal that does not go with its operator is an error of its condition. -/
theorem operand_error (failed : site.operand settings type literal = .error error) :
    error.Concerns site := by
  -- The branches follow the demand: none, a list, then one operand.
  unfold operand at failed
  split at failed
  · cases failed
  split at failed
  · split at failed
    · exact Literal.scalars_error (Outcome.map_eq_error.1 failed)
    · cases failed
      exact .unsupported
  · split at failed
    · cases failed
      exact .unsupported
    · exact singleOperand_error failed

end Site

namespace Filter

/-- The path and the operator of a condition, with a body or without. -/
def condition? : Filter → Option (String × Operator)
  | .condition path operator _ _ | .nested path operator _ _ => some (path, operator)
  | .group _ _ _ => none

/-- The first node at fault in the order of reading: a node before its children, and these in order. -/
structure FirstFault (settings : Settings) (type : DataType) (filter : Filter)
    (indices : List Nat) (focus : DataType) (node : Filter) : Prop where
  stands : Stands type filter indices focus node
  fault : ¬ node.Sound settings focus
  -- Places come in the order of their indices, of which the first that differs decides.
  first : ∀ earlier < indices, ∀ other, filter.at? earlier = some other →
    ∃ inner, Stands type filter earlier inner other ∧ other.Sound settings inner

end Filter

/-- What an error tells about the node that it blames. -/
structure CompileError.Describes (settings : Settings) (error : CompileError) (node : Filter) :
    Prop where
  site : error.site? =
    node.condition?.map fun (path, operator) => ⟨error.location, path, operator⟩
  group : ∀ combinator, (∃ location, error = .emptyGroup location combinator) ↔
    settings.emptyGroups = .reject ∧ ∃ negated, node = .group combinator negated []
  path : (∃ site cause, error = .malformedPath site cause) ↔
    ∃ path operator cause, node.condition? = some (path, operator) ∧
      Path.read path = .error cause

namespace CompileError

variable {settings : Settings} {node : Filter} {location : Location} {path : String}
  {operator : Operator}

/-- An error of a condition stands at its place. -/
theorem Concerns.location_eq {site : Site} {error : CompileError} (concerns : error.Concerns site) :
    error.location = site.location := by
  cases concerns <;> rfl

/-- An error of a condition with a good path describes that condition. -/
theorem Concerns.describes {error : CompileError} {read : Path}
    (concerns : error.Concerns ⟨location, path, operator⟩) (good : Path.read path = .ok read)
    (here : node.condition? = some (path, operator)) : error.Describes settings node := by
  -- Such an error is neither of a path nor of a group, and carries the condition itself.
  refine ⟨?_, fun combinator => ?_, ?_⟩
  · cases concerns <;> simp [here, site?, CompileError.location]
  · constructor
    · intro given
      rcases given with ⟨place, rfl⟩
      cases concerns
    · intro given
      rcases given with ⟨_, negated, rfl⟩
      simp [Filter.condition?] at here
  · constructor
    · intro given
      rcases given with ⟨site, cause, rfl⟩
      cases concerns
    · intro given
      rcases given with ⟨text, other, cause, same, bad⟩
      simp only [here, Option.some.injEq, Prod.mk.injEq] at same
      obtain ⟨rfl, rfl⟩ := same
      simp [good] at bad

/-- A malformed path describes the condition that it stands in. -/
theorem describes_malformed {cause : PathError} (bad : Path.read path = .error cause)
    (here : node.condition? = some (path, operator)) :
    (malformedPath ⟨location, path, operator⟩ cause).Describes settings node := by
  -- A malformed path is found before anything else of the node is looked at.
  refine ⟨by simp [here, site?, CompileError.location], fun combinator => ?_, ?_⟩
  · constructor
    · intro given
      rcases given with ⟨place, same⟩
      cases same
    · intro given
      rcases given with ⟨_, negated, rfl⟩
      simp [Filter.condition?] at here
  · exact ⟨fun _ => ⟨path, operator, cause, here, bad⟩, fun _ => ⟨_, _, rfl⟩⟩

/-- An empty group describes itself where such groups are rejected. -/
theorem describes_emptyGroup {combinator : Combinator} {negated : Bool}
    (rejects : settings.emptyGroups = .reject) :
    (emptyGroup location combinator).Describes settings (.group combinator negated []) := by
  -- Only a childless group is told as one, and it has no path to be malformed.
  refine ⟨rfl, fun other => ?_, by simp [Filter.condition?]⟩
  constructor
  · intro given
    rcases given with ⟨place, same⟩
    cases same
    exact ⟨rejects, negated, rfl⟩
  · intro given
    rcases given with ⟨_, turned, same⟩
    cases same
    exact ⟨location, rfl⟩

end CompileError

namespace Filter

variable {settings : Settings} {type focus inner : DataType} {filter child node : Filter}
  {location : Location} {error : CompileError}

/-- A root at fault is the first node at fault. -/
theorem FirstFault.here (fault : ¬ filter.Sound settings type) :
    FirstFault settings type filter [] type filter :=
  ⟨.here, fault, fun _ less => absurd less (List.not_lt_nil _)⟩

/-- The first node at fault below a child is the first of all after a sound root and sound siblings. -/
theorem FirstFault.under {index : Nat} {rest : List Nat} (sound : filter.Sound settings type)
    (next : Under type filter index inner child)
    (siblings : ∀ earlier < index, ∀ sibling, filter.child? earlier = some sibling →
      ∃ beside, Under type filter earlier beside sibling ∧ WellFormed settings beside sibling)
    (below : FirstFault settings inner child rest focus node) :
    FirstFault settings type filter (index :: rest) focus node := by
  refine ⟨.under next below.stands, below.fault, fun earlier less other found => ?_⟩
  -- The siblings before the child are sound throughout, the child up to its own first fault.
  rcases at?_before_cases next.child?_eq less found with ⟨rfl, rfl⟩ |
    ⟨place, others, sibling, rfl, before, foundSibling, foundOther⟩ | ⟨others, rfl, within, foundOther⟩
  · exact ⟨type, .here, sound⟩
  · obtain ⟨beside, under, formed⟩ := siblings place before sibling foundSibling
    obtain ⟨focus, stands, good⟩ := formed.sound_at foundOther
    exact ⟨focus, .under under stands, good⟩
  · obtain ⟨focus, stands, good⟩ := below.first others within other foundOther
    exact ⟨focus, .under next stands, good⟩

/-- The first node at fault of a filter stands where an error points, which describes that node. -/
def Blames (settings : Settings) (type : DataType) (location : Location) (filter : Filter)
    (error : CompileError) : Prop :=
  ∃ indices focus node, error.location.indices = location.indices ++ indices ∧
    FirstFault settings type filter indices focus node ∧ error.Describes settings node

/-- An error that a root at fault makes itself blames that root. -/
theorem Blames.here (fault : ¬ filter.Sound settings type) (placed : error.location = location)
    (describes : error.Describes settings filter) : Blames settings type location filter error :=
  ⟨[], type, filter, by simp [placed], .here fault, describes⟩

/-- What a child is blamed for, the whole is blamed for after a sound root and sound siblings. -/
theorem Blames.under {index : Nat} (sound : filter.Sound settings type)
    (next : Under type filter index inner child)
    (siblings : ∀ earlier < index, ∀ sibling, filter.child? earlier = some sibling →
      ∃ beside, Under type filter earlier beside sibling ∧ WellFormed settings beside sibling)
    (below : Blames settings inner (location.child index) child error) :
    Blames settings type location filter error := by
  -- The index of the child comes before the place that is blamed inside of it.
  obtain ⟨rest, focus, node, placed, firstFault, describes⟩ := below
  refine ⟨index :: rest, focus, node, ?_, firstFault.under sound next siblings, describes⟩
  simpa [Location.child] using placed

/-- A path that fails blames its condition, whatever would have been done at its end. -/
theorem Blames.of_probe {path : String} {operator : Operator}
    {finish : Bool → DataType → Except CompileError Probe}
    (failed : Site.probe ⟨location, path, operator⟩ type finish = .error error)
    (here : filter.condition? = some (path, operator))
    (asks : filter.Sound settings type → ∃ entered reached, Path.Reaches path type entered reached)
    (ended : ∀ entered reached, Path.Reaches path type entered reached →
      finish entered reached = .error error → Blames settings type location filter error) :
    Blames settings type location filter error := by
  -- A path that cannot be read, or leads nowhere, leaves the root itself at fault.
  rcases Site.probe_error failed with ⟨cause, bad, rfl⟩ | ⟨read, cause, good, astray, rfl⟩ |
    ⟨read, entered, reached, good, leads, failed⟩
  · refine .here (fun sound => ?_) rfl (CompileError.describes_malformed bad here)
    obtain ⟨entered, reached, read, good, leads⟩ := asks sound
    simp [good] at bad
  · refine .here (fun sound => ?_) rfl (CompileError.Concerns.mismatch.describes good here)
    obtain ⟨entered, reached, again, goodAgain, leads⟩ := asks sound
    obtain rfl : read = again := by simpa [good] using goodAgain
    exact astray entered reached leads
  · exact ended entered reached ⟨read, good, leads⟩ failed

mutual
/-- A filter without a plan is blamed for the first node at fault in it. -/
theorem plan_blames (filter : Filter) {type : DataType} {location : Location}
    {error : CompileError} (failed : filter.plan settings type location = .error error) :
    Blames settings type location filter error := by
  cases filter with
  | condition path operator value negated =>
    have fault : ¬ (condition path operator value negated).Sound settings type := by
      intro sound
      obtain ⟨plain, entered, reached, reaches, accepted⟩ := sound
      obtain ⟨plan, planned⟩ := (exists_plan (condition path operator value negated) location).2
        (.condition plain reaches accepted)
      rw [planned] at failed
      cases failed
    refine .of_probe (Outcome.map_eq_error.1 failed) rfl (fun sound => absurd sound fault) ?_
    intro entered reached reaches ended
    have ⟨read, good, _⟩ := reaches
    have concerns : error.Concerns ⟨location, path, operator⟩ := by
      split at ended
      · cases ended
        exact .unsupported
      · rw [Site.testProbe_eq] at ended
        exact Site.operand_error (Outcome.map_eq_error.1 ended)
    exact .here fault concerns.location_eq (concerns.describes good rfl)
  | nested path operator body negated =>
    refine .of_probe (Outcome.map_eq_error.1 failed) rfl ?_ ?_
    · intro sound
      obtain ⟨quantifies, entered, reached, inner, reaches, handed⟩ := sound
      exact ⟨entered, reached, reaches⟩
    intro entered reached reaches ended
    have ⟨read, good, _⟩ := reaches
    split at ended
    · rename_i quantifies
      cases handed : reached.bodyType? entered with
      | none =>
        rw [Site.bodyProbe_of_none handed] at ended
        cases ended
        refine .here (fun sound => ?_) rfl (CompileError.Concerns.mismatch.describes good rfl)
        obtain ⟨_, crossed, other, inner, again, handedAgain⟩ := sound
        obtain ⟨rfl, rfl⟩ := reaches.unique again
        simp [handed] at handedAgain
      | some inner =>
        -- The condition itself is sound, and its body is what comes next.
        rw [Site.bodyProbe_of_bodyType handed] at ended
        have failedBody := Outcome.map_eq_error.1 ended
        refine .under ⟨quantifies, _, _, _, reaches, handed⟩ (.body quantifies reaches handed) ?_
          (plan_blames body failedBody)
        exact fun earlier less => absurd less (Nat.not_lt_zero earlier)
    · rename_i plain
      cases ended
      refine .here (fun sound => absurd sound.1 plain) rfl
        (CompileError.Concerns.unsupported.describes good rfl)
  | group combinator negated children =>
    rw [plan] at failed
    split at failed
    · rename_i empty
      simp only [Bool.and_eq_true, List.isEmpty_iff, beq_iff_eq] at empty
      obtain ⟨rfl, rejects⟩ := empty
      cases failed
      refine .here (fun sound => ?_) rfl (CompileError.describes_emptyGroup rejects)
      have identity : settings.emptyGroups = .identity := sound rfl
      simp [rejects] at identity
    · rename_i allowed
      simp only [Bool.and_eq_true, List.isEmpty_iff, beq_iff_eq, not_and] at allowed
      obtain ⟨place, child, found, formed, blames⟩ :=
        plans_blame children (Outcome.map_eq_error.1 failed)
      rw [Nat.zero_add] at blames
      refine .under ?_ (.child found) ?_ blames
      · intro empty
        simp [empty] at found
      · exact fun earlier less sibling foundSibling =>
          ⟨type, .child foundSibling, formed earlier less sibling foundSibling⟩
/-- Of several filters the first without a plan is blamed, and those before it are well-formed. -/
theorem plans_blame (children : List Filter) {type : DataType} {location : Location} {index : Nat}
    {error : CompileError} (failed : plans settings type location index children = .error error) :
    ∃ place child, children[place]? = some child ∧
      (∀ earlier < place, ∀ sibling, children[earlier]? = some sibling →
        WellFormed settings type sibling) ∧
      Blames settings type (location.child (index + place)) child error := by
  -- `plans` stops at the first child that fails, so every sibling before it has a plan.
  cases children with
  | nil => simp [plans] at failed
  | cons child rest =>
    rw [plans, Outcome.cons_eq_error] at failed
    rcases failed with failed | ⟨first, planned, failed⟩
    · exact ⟨0, child, rfl, fun earlier less => absurd less (Nat.not_lt_zero earlier),
        plan_blames child failed⟩
    · obtain ⟨place, other, found, formed, blames⟩ := plans_blame rest failed
      refine ⟨place + 1, other, found, fun earlier less sibling foundSibling => ?_, ?_⟩
      · cases earlier with
        | zero =>
          obtain rfl : child = sibling := by simpa using foundSibling
          exact (exists_plan child _).1 ⟨first, planned⟩
        | succ earlier => exact formed earlier (by omega) sibling foundSibling
      · -- The tail counts its children from `index + 1`.
        rwa [Nat.add_assoc, Nat.add_comm 1] at blames
end

/-- A failed compilation blames the first node at fault, at a place whose text is its own. -/
theorem compile_blames {schema : Schema}
    (failed : filter.compile settings schema = .error error) :
    (∃ focus node, filter.at? error.location.indices = some node ∧
      FirstFault settings schema.type filter error.location.indices focus node ∧
      error.Describes settings node) ∧ Function.Injective Location.text := by
  -- The place of the root is empty, so the error points at the place of the fault itself.
  refine ⟨?_, Location.text_injective⟩
  obtain ⟨indices, focus, node, placed, firstFault, describes⟩ :=
    plan_blames filter (Outcome.map_eq_error.1 failed)
  rw [placed]
  exact ⟨focus, node, firstFault.stands.at?_eq, firstFault, describes⟩

/-- Tags that are texts have no order, which is the fault of a body two nodes below the root. -/
theorem compile_blames_tags :
    ∃ error : CompileError,
      (group .and false [condition "name" .notNull none false, group .or false [
        nested "tags" .any (condition "" .lessThan (some (.int 3)) false) false,
        condition "height" .isNull none false]]).compile .standard
        ⟨"User", [("name", .string), ("tags", .list .string)]⟩ = .error error ∧
      error.location.text = "/1/0/0" ∧
      ∃ focus node, ¬ node.Sound .standard focus ∧ error.Describes .standard node := by
  -- The error is evaluated once; its place is then read off and its description derived.
  refine Exists.imp (fun error failed => ⟨failed, ?_, ?_⟩) ⟨_, rfl⟩
  · have same : Except.error _ = Except.error error := failed
    cases same
    decide +kernel
  · obtain ⟨⟨focus, node, _, firstFault, describes⟩, -⟩ := compile_blames failed
    exact ⟨focus, node, firstFault.fault, describes⟩

end Filter

end RecordFilter
