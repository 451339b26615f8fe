import Mathlib.Data.List.Forall2
import RecordFilter.Proofs.Filter.Case
import RecordFilter.Proofs.Predicate.Interchange
import RecordFilter.Proofs.Value.Equality

/-! Letter case in filters: paths in other cases make the same plans, and errors of the same kind in the same place. -/

namespace RecordFilter

/-- The kinds of compile errors, apart from what they tell about texts and types. -/
inductive CompileError.Kind
  | mismatch
  | malformedPath
  | unsupported
  | invalidPattern
  | emptyGroup
  deriving DecidableEq, Repr

namespace CompileError

/-- The kind of a compile error. -/
def kind : CompileError → Kind
  | .mismatch _ _ => .mismatch
  | .malformedPath _ _ => .malformedPath
  | .unsupported _ _ => .unsupported
  | .invalidPattern _ _ => .invalidPattern
  | .emptyGroup _ _ => .emptyGroup

/-- The operator of the condition at fault, unless it is a group. -/
def operator? (error : CompileError) : Option Operator :=
  error.site?.map Site.operator

/-- What is left of an error that does not show how paths are spelled. -/
def gist (error : CompileError) : Kind × Location × Option Operator :=
  (error.kind, error.location, error.operator?)

end CompileError

open CompileError (gist)

/-- Two routes run the same way to an unambiguous type, or both lead nowhere. -/
inductive Route.Coincide : Route → Route → Prop
  | arrive {type : DataType} (unambiguous : type.Unambiguous) : Coincide (.arrive type) (.arrive type)
  | fail {cause other : RouteError} : Coincide (.fail cause) (.fail other)
  | step {taken : Step} {next more : Route} (further : Coincide next more) :
      Coincide (.step taken next) (.step taken more)
  -- What is still ahead of a list may be spelled in another way.
  | spread {element : DataType} {rest ahead : Path} {next more : Route}
      (further : Coincide next more) :
      Coincide (.spread element rest next) (.spread element ahead more)

namespace Route

variable {type : DataType} {segment other : Segment} {follow more : DataType → Route}

/-- Lists are entered the same way, whatever follows in the same way on what they hold. -/
theorem within_coincide {rest ahead : Path}
    (same : ∀ inner, inner.Unambiguous → Coincide (follow inner) (more inner))
    (unambiguous : type.Unambiguous) : Coincide (within rest follow type) (within ahead more type) := by
  -- By the recursion that enters the lists; below the last one `same` takes over.
  induction type using within.induct with
  | case1 element ih => exact .spread (ih unambiguous.of_list)
  | case2 type scalar =>
    cases type with
    | list element => exact absurd rfl (scalar element)
    | _ => exact same _ unambiguous

/-- Items at one index are taken the same way. -/
theorem index_coincide {field : String} (indices : segment.index = other.index)
    (same : ∀ inner, inner.Unambiguous → Coincide (follow inner) (more inner))
    (unambiguous : type.Unambiguous) :
    Coincide (index segment field type follow) (index other field type more) := by
  -- Recasing keeps the indices, so both sides step into the list or both fail.
  unfold index
  rw [indices]
  split
  · exact same _ unambiguous
  · exact .step (same _ unambiguous.of_list)
  · exact .fail

/-- Fields are found the same way by names that agree, since at most one field agrees with them. -/
theorem field_coincide (agree : Text.agree segment.name other.name = true)
    (indices : segment.index = other.index)
    (same : ∀ inner, inner.Unambiguous → Coincide (follow inner) (more inner))
    (unambiguous : type.Unambiguous) : Coincide (field segment type follow) (field other type more) := by
  -- An unambiguous record finds the same field under both spellings.
  cases type with
  | record name fields =>
    simp only [field, ← Fields.lookup?_agree unambiguous.rule_of_record agree]
    cases found : Fields.lookup? segment.name fields with
    | none => exact .fail
    | some declared =>
      exact .step (index_coincide indices same (unambiguous.of_lookup? found))
  | _ => exact .fail

/-- Segments that are the same in small letters run the same way through an unambiguous type. -/
theorem ofSegments_coincide {segments others : List Segment}
    (same : segments.map Segment.lowered = others.map Segment.lowered)
    (unambiguous : type.Unambiguous) :
    Coincide (ofSegments segments type) (ofSegments others type) := by
  -- Each segment is looked up once all lists before it are entered, and the rest follows from there.
  induction segments generalizing others type with
  | nil =>
    obtain rfl : others = [] := List.map_eq_nil_iff.1 same.symm
    exact .arrive unambiguous
  | cons segment rest ih =>
    obtain ⟨other, more, rfl, first, following⟩ := List.map_eq_cons_iff.1 same.symm
    have agree : Text.agree segment.name other.name = true :=
      Text.agree_iff.2 (congrArg Segment.name first).symm
    have indices : segment.index = other.index := (congrArg Segment.index first).symm
    exact within_coincide
      (fun inner => field_coincide agree indices fun _ => ih following.symm) unambiguous

end Route

namespace Literal

variable {location : Location} {path : String} {operator : Operator} {type : DataType}

/-- What a literal stands for does not depend on the path before it, nor does the gist of its error. -/
theorem scalar_gist (other : String) (literal : Literal) :
    (literal.scalar ⟨location, path, operator⟩ type).mapError gist =
      (literal.scalar ⟨location, other, operator⟩ type).mapError gist := by
  -- The site's path is only stored in the error, and `gist` drops it.
  unfold scalar
  split
  · rfl
  · cases literal.coerce type <;> rfl

/-- What several literals stand for does not depend on the path before them, nor does the gist of an error. -/
theorem scalars_gist (other : String) (items : List Literal) :
    (scalars ⟨location, path, operator⟩ type items).mapError gist =
      (scalars ⟨location, other, operator⟩ type items).mapError gist := by
  -- The items are coerced in order, so the first error is the same one.
  induction items with
  | nil => rfl
  | cons item rest ih =>
    simp only [scalars, Outcome.mapError_bind, ih, scalar_gist other item]

end Literal

namespace Site

variable {settings : Settings} {location : Location} {path : String} {operator : Operator}
  {type : DataType} {literal : Literal}

/-- The gist of what a text operand makes does not show the path. -/
theorem textOperand_gist (other : String) :
    (textOperand ⟨location, path, operator⟩ type literal).mapError gist =
      (textOperand ⟨location, other, operator⟩ type literal).mapError gist := by
  -- The path is stored in the error and looked at nowhere.
  unfold textOperand
  split
  · rfl
  · split <;> rfl

/-- The gist of what a pattern makes does not show the path. -/
theorem patternOperand_gist (other text : String) :
    (patternOperand settings ⟨location, path, operator⟩ text).mapError gist =
      (patternOperand settings ⟨location, other, operator⟩ text).mapError gist := by
  -- The pattern's error holds the path, which `gist` drops.
  unfold patternOperand
  split <;> rfl

/-- The gist of what a single literal makes does not show the path. -/
theorem singleOperand_gist (other : String) :
    (singleOperand settings ⟨location, path, operator⟩ type literal).mapError gist =
      (singleOperand settings ⟨location, other, operator⟩ type literal).mapError gist := by
  -- The branches look at the operator, type and literal, none at the path.
  unfold singleOperand
  split
  · rfl
  split
  · rfl
  split
  · show (_ >>= _ : Except _ _).mapError gist = (_ >>= _ : Except _ _).mapError gist
    simp only [Outcome.mapError_bind, textOperand_gist other, patternOperand_gist other]
  split
  · exact Outcome.mapError_map_congr (textOperand_gist other)
  · exact Outcome.mapError_map_congr (Literal.scalar_gist other literal)

/-- The gist of what a literal makes does not show the path. -/
theorem operand_gist (other : String) :
    (operand settings ⟨location, path, operator⟩ type literal).mapError gist =
      (operand settings ⟨location, other, operator⟩ type literal).mapError gist := by
  -- As for a single operand, with the list's items one by one.
  unfold operand
  split
  · rfl
  split
  · split
    · exact Outcome.mapError_map_congr (Literal.scalars_gist other _)
    · rfl
  · split
    · rfl
    · exact singleOperand_gist other

/-- The gist of a test that is asked at the end of a path does not show the path. -/
theorem testProbe_gist (other : String) :
    (testProbe settings ⟨location, path, operator⟩ literal type).mapError gist =
      (testProbe settings ⟨location, other, operator⟩ literal type).mapError gist := by
  -- A test is its operand with the way into the lists around it.
  rw [testProbe_eq, testProbe_eq]
  exact Outcome.mapError_map_congr (operand_gist other)

/-- Bodies whose plans have one gist are handed values at the end of a path with one gist. -/
theorem bodyProbe_gist (other : String) {body recased : DataType → Except CompileError Plan}
    (same : ∀ inner, inner.Unambiguous → (body inner).mapError gist = (recased inner).mapError gist)
    (crossed : Bool) (unambiguous : type.Unambiguous) :
    (bodyProbe ⟨location, path, operator⟩ body crossed type).mapError gist =
      (bodyProbe ⟨location, other, operator⟩ recased crossed type).mapError gist := by
  -- The body is planned on the same inner type on both sides.
  unfold bodyProbe
  split
  · exact Outcome.mapError_map_congr (same _ unambiguous.of_list)
  · split
    · exact Outcome.mapError_map_congr (same _ unambiguous)
    · rfl

/-- Routes that coincide make probes of one gist, when what is done at their end has one. -/
theorem probe_of_coincide (other : String) {route another : Route} (same : route.Coincide another)
    {finish ending : Bool → DataType → Except CompileError Probe}
    (ends : ∀ crossed reached, reached.Unambiguous →
      (finish crossed reached).mapError gist = (ending crossed reached).mapError gist)
    (crossed : Bool) :
    (route.probe ⟨location, path, operator⟩ finish crossed).mapError gist =
      (another.probe ⟨location, other, operator⟩ ending crossed).mapError gist := by
  -- Two coinciding routes take the same steps; where they end the rest agrees.
  induction same generalizing crossed with
  | arrive unambiguous => exact ends crossed _ unambiguous
  | fail => rfl
  | step further ih => exact Outcome.mapError_map_congr (ih crossed)
  | spread further ih => exact Outcome.mapError_map_congr (ih true)

/-- Paths that agree make probes of one gist, when what is done at their end has one. -/
theorem probe_gist {other : String} (agree : Text.agree path other = true)
    {finish ending : Bool → DataType → Except CompileError Probe}
    (ends : ∀ crossed reached, reached.Unambiguous →
      (finish crossed reached).mapError gist = (ending crossed reached).mapError gist)
    (unambiguous : type.Unambiguous) :
    (probe ⟨location, path, operator⟩ type finish).mapError gist =
      (probe ⟨location, other, operator⟩ type ending).mapError gist := by
  have same := Path.read_agree agree
  unfold probe
  -- Either both texts are paths, of the same names in small letters, or neither of them is.
  cases read : Path.read path with
  | error cause =>
    cases again : Path.read other with
    | error second => rfl
    | ok second => simp [read, again, Except.toOption] at same
  | ok first =>
    cases again : Path.read other with
    | error cause => simp [read, again, Except.toOption] at same
    | ok second =>
      simp only [read, again, Except.toOption, Option.map_some, Option.some.injEq, Path.lowered,
        Path.mk.injEq] at same
      exact probe_of_coincide other (Route.ofSegments_coincide same unambiguous) ends false

end Site

namespace Filter

/-- The same filter but for the case of letters in its paths, those of bodies included. -/
inductive Recased : Filter → Filter → Prop
  | condition {path other : String} {operator : Operator} {value : Option Literal} {negated : Bool}
      (agree : Text.agree path other = true) :
      Recased (.condition path operator value negated) (.condition other operator value negated)
  | nested {path other : String} {operator : Operator} {body recased : Filter} {negated : Bool}
      (agree : Text.agree path other = true) (below : Recased body recased) :
      Recased (.nested path operator body negated) (.nested other operator recased negated)
  | group {combinator : Combinator} {negated : Bool} {children others : List Filter}
      (below : List.Forall₂ Recased children others) :
      Recased (.group combinator negated children) (.group combinator negated others)

variable {settings : Settings}

mutual
/-- A filter with paths in another case has the same plan, or fails with an error of the same gist. -/
theorem plan_recased (filter : Filter) {other : Filter} {type : DataType} {location : Location}
    (recased : Recased filter other) (unambiguous : type.Unambiguous) :
    (filter.plan settings type location).mapError gist =
      (other.plan settings type location).mapError gist := by
  -- What a body is about is found on the way, and is unambiguous since the type at the start is.
  cases filter with
  | condition path operator value negated =>
    cases recased with
    | condition agree =>
      rw [plan, plan]
      refine Outcome.mapError_map_congr (Site.probe_gist agree (fun _ reached _ => ?_) unambiguous)
      split
      · rfl
      · exact Site.testProbe_gist _
  | nested path operator body negated =>
    cases recased with
    | nested agree below =>
      rw [plan, plan]
      refine Outcome.mapError_map_congr
        (Site.probe_gist agree (fun crossed reached clear => ?_) unambiguous)
      split
      · exact Site.bodyProbe_gist _ (fun _ => plan_recased body below) crossed clear
      · rfl
  | group combinator negated children =>
    cases recased with
    | @group _ _ _ others below =>
      have empty : children.isEmpty = others.isEmpty := by cases below <;> rfl
      simp only [plan, empty]
      split
      · rfl
      · exact Outcome.mapError_map_congr (plans_recased children below unambiguous)
/-- Several filters with paths in another case have the same plans, or fail with an error of the same gist. -/
theorem plans_recased (children : List Filter) {others : List Filter} {type : DataType}
    {location : Location} {index : Nat} (recased : List.Forall₂ Recased children others)
    (unambiguous : type.Unambiguous) :
    (plans settings type location index children).mapError gist =
      (plans settings type location index others).mapError gist := by
  -- Mutual with `plan_recased`: the children are planned in order on both sides.
  cases children with
  | nil =>
    cases recased
    rfl
  | cons child rest =>
    cases recased with
    | cons first following =>
      simp only [plans, Outcome.mapError_bind, plan_recased child first unambiguous,
        plans_recased rest following unambiguous]
end

/--
Against an unambiguous schema the case of letters in paths does not matter.

Filters that differ in nothing else compile together or not at all. Their predicates agree on every
value, and their errors are of one kind, stand in one place and name one operator.
-/
theorem compile_recased {schema : Schema} {filter other : Filter}
    (unambiguous : schema.type.Unambiguous) (recased : Recased filter other) :
    Alike settings schema filter other ∧
      ∀ error second, filter.compile settings schema = .error error →
        other.compile settings schema = .error second →
        second.kind = error.kind ∧ second.location = error.location ∧
          second.operator? = error.operator? := by
  -- One equation settles both outcomes: renaming errors leaves results as they are.
  have same : (filter.compile settings schema).mapError gist =
      (other.compile settings schema).mapError gist :=
    Outcome.mapError_map_congr (plan_recased filter recased unambiguous)
  have predicates : ∀ predicate, filter.compile settings schema = .ok predicate ↔
      other.compile settings schema = .ok predicate := by
    intro predicate
    have kept : ∀ outcome : Except CompileError Predicate,
        outcome.mapError gist = .ok predicate ↔ outcome = .ok predicate :=
      fun _ => Outcome.mapError_eq_ok
    rw [← kept, same, kept]
  refine ⟨⟨exists_congr predicates, fun one second compiled compiledOther value => ?_⟩, ?_⟩
  · obtain rfl : one = second := Except.ok.inj (((predicates one).1 compiled).symm.trans compiledOther)
    rfl
  · intro error second failed failedOther
    rw [failed, failedOther] at same
    obtain ⟨kind, location, operator⟩ : error.kind = second.kind ∧
        error.location = second.location ∧ error.operator? = second.operator? := by
      simpa [Except.mapError, gist] using same
    exact ⟨kind.symm, location.symm, operator.symm⟩

/-- Orders by lines in two spellings, and the misuse of a number in two spellings. -/
theorem compile_recased_lines :
    let schema : Schema := ⟨"Order",
      [("id", .int), ("lines", .list (.record "Line" [("sku", .string), ("Qty", .int)]))]⟩
    let filter : Filter := group .and false [condition "ID" .isIn (some (.list [.int 1])) false,
      nested "Lines" .any (condition "SKU" .startsWith (some (.string "a")) false) false]
    let other : Filter := group .and false [condition "id" .isIn (some (.list [.int 1])) false,
      nested "LINES" .any (condition "sku" .startsWith (some (.string "a")) false) false]
    let misuse : Filter := group .or false [filter,
      nested "lines" .all (condition "qty" .startsWith (some (.string "a")) false) false]
    let again : Filter := group .or false [other,
      nested "Lines" .all (condition "QTY" .startsWith (some (.string "a")) false) false]
    (∃ one second : Predicate, filter.compile .standard schema = .ok one ∧
        other.compile .standard schema = .ok second ∧
        ∀ value, one.testValue value = second.testValue value) ∧
      ∃ error second : CompileError, misuse.compile .standard schema = .error error ∧
        again.compile .standard schema = .error second ∧
        second.kind = error.kind ∧ second.location = error.location ∧
          second.operator? = error.operator? := by
  -- The spellings differ on both levels: in the path and in the body handed to it.
  intro schema filter other misuse again
  have line : (DataType.record "Line" [("sku", .string), ("Qty", .int)]).Unambiguous := by
    refine .record (by decide +kernel) fun field member => .scalar ?_ trivial
    revert field
    decide
  have unambiguous : schema.type.Unambiguous := by
    refine .record (by decide +kernel) fun field member => ?_
    simp only [schema, List.mem_cons, List.not_mem_nil, or_false] at member
    rcases member with rfl | rfl
    · exact .scalar rfl trivial
    · exact .list line
  have recased : Recased filter other :=
    .group (.cons (.condition (by decide +kernel))
      (.cons (.nested (by decide +kernel) (.condition (by decide +kernel))) .nil))
  have recasedMisuse : Recased misuse again :=
    .group (.cons recased (.cons (.nested (by decide +kernel) (.condition (by decide +kernel))) .nil))
  constructor
  · obtain ⟨one, compiled⟩ : ∃ one, filter.compile .standard schema = .ok one := ⟨_, rfl⟩
    obtain ⟨second, compiledOther⟩ : ∃ second, other.compile .standard schema = .ok second := ⟨_, rfl⟩
    exact ⟨one, second, compiled, compiledOther,
      (compile_recased unambiguous recased).1.agree one second compiled compiledOther⟩
  · obtain ⟨error, failed⟩ : ∃ error, misuse.compile .standard schema = .error error := ⟨_, rfl⟩
    obtain ⟨second, failedOther⟩ : ∃ second, again.compile .standard schema = .error second := ⟨_, rfl⟩
    exact ⟨error, second, failed, failedOther,
      (compile_recased unambiguous recasedMisuse).2 error second failed failedOther⟩

end Filter

end RecordFilter
