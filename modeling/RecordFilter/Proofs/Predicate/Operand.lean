import RecordFilter.Predicate.Compile
import RecordFilter.Proofs.Outcome

/-! What each operator has to be compared with, and when a literal makes an operand of that form. -/

namespace RecordFilter

/-- What stands beside an operator: nothing, candidates, one value in some role, or a sub-filter. -/
inductive Demand
  | nothing
  | candidates
  | rank
  | pattern
  | text
  | value
  | body
  deriving DecidableEq, Repr

/-- What an operator demands beside it. -/
def Operator.demand : Operator → Demand
  | .isNull | .notNull => .nothing
  | .isIn | .notIn => .candidates
  | .greaterThan | .greaterOrEqual | .lessThan | .lessOrEqual => .rank
  | .matchesPattern | .doesNotMatchPattern => .pattern
  | .startsWith | .endsWith | .doesNotStartWith | .doesNotEndWith | .contains
  | .doesNotContain => .text
  | .equal | .notEqual => .value
  | .all | .any => .body

/-- The demand is for a single value, in whatever role. -/
def Demand.isSingle : Demand → Bool
  | .rank | .pattern | .text | .value => true
  | _ => false

namespace Operator

/-- Null checks are the operators that demand nothing. -/
theorem isNullCheck_eq (operator : Operator) :
    operator.isNullCheck = decide (operator.demand = .nothing) := by
  cases operator <;> rfl

/-- Memberships are the operators that demand candidates. -/
theorem isMembership_eq (operator : Operator) :
    operator.isMembership = decide (operator.demand = .candidates) := by
  cases operator <;> rfl

/-- Orderings are the operators that demand a value with a rank. -/
theorem isOrdering_eq (operator : Operator) :
    operator.isOrdering = decide (operator.demand = .rank) := by
  cases operator <;> rfl

/-- Pattern operators are those that demand a pattern. -/
theorem isPattern_eq (operator : Operator) :
    operator.isPattern = decide (operator.demand = .pattern) := by
  cases operator <;> rfl

/-- Text searches are the operators that demand a text. -/
theorem isTextSearch_eq (operator : Operator) :
    operator.isTextSearch = decide (operator.demand = .text) := by
  cases operator <;> rfl

/-- Quantifiers are the operators that demand a sub-filter. -/
theorem isQuantifier_eq (operator : Operator) :
    operator.isQuantifier = decide (operator.demand = .body) := by
  cases operator <;> rfl

end Operator

namespace Literal

/-- No list stands for a value of any type. -/
theorem coerce_list (type : DataType) (items : List Literal) :
    coerce type (.list items) = .error (.incomparable type "list") := by
  cases type <;> rfl

/-- The value of a literal in a condition is what it stands for beside the type. -/
theorem scalar_eq_ok {site : Site} {type : DataType} {literal : Literal} {value : Value} :
    literal.scalar site type = .ok value ↔ literal.coerce type = .ok value := by
  -- Lists are refused with another error, but they stand for no value either way.
  cases literal <;> simp [scalar, coerce_list, Outcome.mapError_eq_ok]

/-- The values of candidates are what each of them stands for, in order. -/
theorem scalars_eq_ok {site : Site} {type : DataType} {items : List Literal}
    {values : List Value} :
    scalars site type items = .ok values ↔ items.map (coerce type) = values.map .ok := by
  -- Candidates and values are matched one by one, so the lists have the same length.
  induction items generalizing values with
  | nil => cases values <;> simp [scalars]
  | cons item rest ih =>
    rw [scalars, Outcome.cons_eq_ok]
    constructor
    · intro given
      rcases given with ⟨value, others, read, readRest, rfl⟩
      rw [List.map_cons, List.map_cons, scalar_eq_ok.1 read, ih.1 readRest]
    · intro read
      cases values with
      | nil => simp at read
      | cons value others =>
        obtain ⟨read, readRest⟩ := List.cons.inj read
        exact ⟨value, others, scalar_eq_ok.2 read, ih.2 readRest, rfl⟩

end Literal

/-- The operand that a literal makes beside values of a type, in the form that is demanded. -/
inductive Operand.Built (settings : Settings) (type : DataType) :
    Demand → Literal → Operand → Prop
  | nothing {literal : Literal} : Built settings type .nothing literal .none
  | candidates {items : List Literal} {values : List Value}
      (read : items.map (Literal.coerce type) = values.map .ok) :
      Built settings type .candidates (.list items) (.set values)
  | rank {literal : Literal} {value : Value} (ordered : type.isOrdered = true)
      (present : literal.isNull = false) (read : literal.coerce type = .ok value) :
      Built settings type .rank literal (.value value)
  | pattern {text : String} {pattern : Pattern} (isText : type.isText = true)
      (compiled : Pattern.compile? settings.patternLimit.toNat text = some pattern) :
      Built settings type .pattern (.string text) (.pattern pattern)
  | text {text : String} (isText : type.isText = true) :
      Built settings type .text (.string text) (.value (.string text))
  | value {literal : Literal} {value : Value} (read : literal.coerce type = .ok value) :
      Built settings type .value literal (.value value)

/-- No list makes an operand where a single value is demanded. -/
theorem Operand.Built.literal_ne_list {settings : Settings} {type : DataType} {demand : Demand}
    {literal : Literal} {operand : Operand} (built : Built settings type demand literal operand)
    (single : demand.isSingle = true) (items : List Literal) : literal ≠ .list items := by
  -- Patterns and texts are made of strings, and other single values are coerced.
  intro same
  subst same
  cases built with
  | nothing | candidates => simp [Demand.isSingle] at single
  | rank _ _ read | value read => simp [Literal.coerce_list] at read

namespace Site

variable {settings : Settings} {site : Site} {type : DataType} {literal : Literal}
  {operand : Operand}

/-- A text operand needs a type of texts and the literal of a text. -/
theorem textOperand_eq_ok {text : String} :
    site.textOperand type literal = .ok text ↔ type.isText = true ∧ literal = .string text := by
  -- The type is judged before the literal is looked at.
  unfold textOperand
  cases type.isText <;> cases literal <;> simp

/-- A pattern operand is what the text of the pattern compiles to. -/
theorem patternOperand_eq_ok {text : String} :
    site.patternOperand settings text = .ok operand ↔
      ∃ pattern, Pattern.compile? settings.patternLimit.toNat text = some pattern ∧
        operand = .pattern pattern := by
  -- The one outcome that is kept is the compiled pattern.
  unfold patternOperand
  cases Pattern.compile? settings.patternLimit.toNat text <;> simp [eq_comm]

/-- Where a single value is demanded, exactly the operands of that form are made. -/
theorem singleOperand_eq_ok (single : site.operator.demand.isSingle = true) :
    site.singleOperand settings type literal = .ok operand ↔
      Operand.Built settings type site.operator.demand literal operand := by
  -- Each demand settles which of the checks in a row applies, and no other one does.
  simp only [singleOperand, Operator.isOrdering_eq, Operator.isPattern_eq,
    Operator.isTextSearch_eq]
  cases demanded : site.operator.demand with
  | nothing | candidates | body => simp [demanded, Demand.isSingle] at single
  | rank =>
    simp only [decide_true, Bool.true_and]
    constructor
    · intro built
      split at built
      · simp at built
      · rename_i ordered
        split at built
        · simp at built
        · rename_i present
          simp only [reduceCtorEq, decide_false, Bool.false_eq_true, if_false] at built
          obtain ⟨value, read, rfl⟩ := Outcome.map_eq_ok.1 built
          exact .rank (by simpa using ordered) (by simpa using present)
            (Literal.scalar_eq_ok.1 read)
    · intro built
      cases built with
      | rank ordered present read =>
        simp [ordered, present, Outcome.map_eq_ok, Literal.scalar_eq_ok, read]
  | pattern =>
    simp only [reduceCtorEq, decide_false, decide_true, Bool.false_eq_true, if_false, if_true,
      Bool.false_and]
    constructor
    · intro built
      obtain ⟨text, found, compiles⟩ := Outcome.bind_eq_ok.1 built
      obtain ⟨isText, rfl⟩ := textOperand_eq_ok.1 found
      obtain ⟨pattern, compiled, rfl⟩ := patternOperand_eq_ok.1 compiles
      exact .pattern isText compiled
    · intro built
      cases built with
      | pattern isText compiled =>
        exact Outcome.bind_eq_ok.2 ⟨_, textOperand_eq_ok.2 ⟨isText, rfl⟩,
          patternOperand_eq_ok.2 ⟨_, compiled, rfl⟩⟩
  | text =>
    simp only [reduceCtorEq, decide_false, decide_true, Bool.false_eq_true, if_false, if_true,
      Bool.false_and]
    constructor
    · intro built
      obtain ⟨text, found, rfl⟩ := Outcome.map_eq_ok.1 built
      obtain ⟨isText, rfl⟩ := textOperand_eq_ok.1 found
      exact .text isText
    · intro built
      cases built with
      | text isText => exact Outcome.map_eq_ok.2 ⟨_, textOperand_eq_ok.2 ⟨isText, rfl⟩, rfl⟩
  | value =>
    simp only [reduceCtorEq, decide_false, Bool.false_eq_true, if_false, Bool.false_and]
    constructor
    · intro built
      obtain ⟨value, read, rfl⟩ := Outcome.map_eq_ok.1 built
      exact .value (Literal.scalar_eq_ok.1 read)
    · intro built
      cases built with
      | value read => exact Outcome.map_eq_ok.2 ⟨_, Literal.scalar_eq_ok.2 read, rfl⟩

/-- Exactly the operands of the demanded form are made. -/
theorem operand_eq_ok (plain : site.operator.isQuantifier = false) :
    site.operand settings type literal = .ok operand ↔
      Operand.Built settings type site.operator.demand literal operand := by
  -- Only candidates come as a list; everywhere else a list is refused before it is looked at.
  by_cases single : site.operator.demand.isSingle = true
  · have asks : site.operator.demand ≠ .nothing := by
      intro nothing
      simp [nothing, Demand.isSingle] at single
    have one : site.operator.demand ≠ .candidates := by
      intro several
      simp [several, Demand.isSingle] at single
    simp only [Site.operand, Operator.isNullCheck_eq, Operator.isMembership_eq, asks, one,
      decide_false, Bool.false_eq_true, if_false]
    split
    · rename_i items
      simp only [reduceCtorEq, false_iff]
      exact fun built => built.literal_ne_list single items rfl
    · exact singleOperand_eq_ok single
  · simp only [Site.operand, Operator.isNullCheck_eq, Operator.isMembership_eq]
    cases demanded : site.operator.demand with
    | rank | pattern | text | value => simp [demanded, Demand.isSingle] at single
    | body => simp [Operator.isQuantifier_eq, demanded] at plain
    | nothing =>
      simp only [decide_true, if_true, Except.ok.injEq]
      constructor
      · intro made
        rw [← made]
        exact .nothing
      · intro built
        cases built
        rfl
    | candidates =>
      simp only [reduceCtorEq, decide_false, decide_true, Bool.false_eq_true, if_false, if_true]
      constructor
      · intro built
        cases literal with
        | list items =>
          obtain ⟨values, read, rfl⟩ := Outcome.map_eq_ok.1 built
          exact .candidates (Literal.scalars_eq_ok.1 read)
        | _ => simp at built
      · intro built
        cases built with
        | candidates read => exact Outcome.map_eq_ok.2 ⟨_, Literal.scalars_eq_ok.2 read, rfl⟩

end Site

end RecordFilter
