import RecordFilter.Filter.Basic
import RecordFilter.Predicate.Error
import RecordFilter.Predicate.Plan
import RecordFilter.Settings.Basic

/-! Compiling filters: every node is checked against the types that it meets, and becomes a plan. -/

namespace RecordFilter

namespace Operator

/-- The quantifier that joins the results for the elements of the lists on the way. -/
def quantifier : Operator → Quantifier
  -- Every operator but one asks for some element.
  | .all => .all
  | _ => .any

end Operator

namespace Literal

/-- The value of a literal that must not be a list. -/
def scalar (site : Site) (type : DataType) (literal : Literal) : Except CompileError Value :=
  match literal with
  | .list _ => .error (.unsupported site .nestedList)
  | literal => (literal.coerce type).mapError fun cause => .mismatch site (.coercion cause)

/-- The values of several literals, of which the first that fails decides. -/
def scalars (site : Site) (type : DataType) : List Literal → Except CompileError (List Value)
  | [] => .ok []
  | literal :: rest => do
    let value ← literal.scalar site type
    let values ← scalars site type rest
    return value :: values

end Literal

namespace Site

/-- The text of a literal that has to be a string, beside a type that has to be one of texts. -/
def textOperand (site : Site) (type : DataType) (literal : Literal) : Except CompileError String :=
  if !type.isText then .error (.mismatch site (.noText type))
  else match literal with
    | .string text => .ok text
    | literal => .error (.mismatch site (.noTextLiteral literal.kind))

/-- The pattern of a text. -/
def patternOperand (settings : Settings) (site : Site) (text : String) :
    Except CompileError Operand :=
  match Pattern.compile? settings.patternLimit.toNat text with
  | some pattern => .ok (.pattern pattern)
  | none => .error (.invalidPattern site text)

/-- What an operator that takes a single value compares with. -/
def singleOperand (settings : Settings) (site : Site) (type : DataType) (literal : Literal) :
    Except CompileError Operand :=
  if site.operator.isOrdering && !type.isOrdered then .error (.mismatch site (.noOrder type))
  else if site.operator.isOrdering && literal.isNull then .error (.mismatch site .orderOfNull)
  else if site.operator.isPattern then
    (site.textOperand type literal).bind (site.patternOperand settings)
  else if site.operator.isTextSearch then
    (site.textOperand type literal).map fun text => .value (.string text)
  else (literal.scalar site type).map .value

/-- What an operator compares values of a type with. -/
def operand (settings : Settings) (site : Site) (type : DataType) (literal : Literal) :
    Except CompileError Operand :=
  if site.operator.isNullCheck then .ok .none
  else if site.operator.isMembership then
    match literal with
    | .list candidates => (Literal.scalars site type candidates).map .set
    | literal => .error (.unsupported site (.missingCandidates literal.kind))
  else
    match literal with
    | .list _ => .error (.unsupported site .unwantedList)
    | literal => site.singleOperand settings type literal

/-- The test of values of a type; of a list some element has to pass, unless the list itself is asked about. -/
def testProbe (settings : Settings) (site : Site) (literal : Literal) :
    DataType → Except CompileError Probe
  | .list element =>
    if site.operator.isNullCheck then .ok (.test ⟨site.operator, .none⟩)
    else (site.testProbe settings literal element).map (.each .any)
  | type => (site.operand settings type literal).map fun operand => .test ⟨site.operator, operand⟩

/-- The body applied to each element of a list, or to what was reached in one. -/
def bodyProbe (site : Site) (body : DataType → Except CompileError Plan) (crossed : Bool)
    (type : DataType) : Except CompileError Probe :=
  match type with
  | .list element => (body element).map fun plan => .each site.operator.quantifier (.body plan)
  | type =>
    if crossed then (body type).map .body else .error (.mismatch site (.noCollection type))

end Site

/-- The probe along a route, with what is done at its end; crossing a list is remembered until then. -/
def Route.probe (site : Site) (finish : Bool → DataType → Except CompileError Probe)
    (crossed : Bool) : Route → Except CompileError Probe
  | .arrive type => finish crossed type
  | .fail cause => .error (.mismatch site (.route cause))
  | .step taken next => (next.probe site finish crossed).map (.step taken)
  | .spread _ _ next => (next.probe site finish true).map (.each site.operator.quantifier)

/-- The probe of the path of a condition, with what is done at its end. -/
def Site.probe (site : Site) (focus : DataType)
    (finish : Bool → DataType → Except CompileError Probe) : Except CompileError Probe :=
  match Path.read site.path with
  | .ok path => (path.route focus).probe site finish false
  | .error cause => .error (.malformedPath site cause)

namespace Filter

mutual
/-- The plan of a filter whose focus has a type, at a place in the tree. -/
def plan (settings : Settings) (focus : DataType) (location : Location) :
    Filter → Except CompileError Plan
  -- A missing literal counts as null, and a body belongs to quantifiers alone.
  | .condition path operator value negated =>
    let site : Site := ⟨location, path, operator⟩
    (site.probe focus fun _ reached =>
      if operator.isQuantifier then .error (.unsupported site .missingBody)
      else site.testProbe settings (value.getD .null) reached).map fun probe =>
        .condition probe negated
  | .nested path operator body negated =>
    let site : Site := ⟨location, path, operator⟩
    (site.probe focus fun crossed reached =>
      if operator.isQuantifier then
        site.bodyProbe (fun type => plan settings type (location.child 0) body) crossed reached
      else .error (.unsupported site .unwantedBody)).map fun probe => .condition probe negated
  | .group combinator negated children =>
    if children.isEmpty && settings.emptyGroups == .reject then
      .error (.emptyGroup location combinator)
    else (plans settings focus location 0 children).map (.group combinator negated)
/-- The plans of the children of a group, from the child of an index on. -/
def plans (settings : Settings) (focus : DataType) (location : Location) (index : Nat) :
    List Filter → Except CompileError (List Plan)
  | [] => .ok []
  | child :: rest => do
    let first ← plan settings focus (location.child index) child
    let others ← plans settings focus location (index + 1) rest
    return first :: others
end

end Filter

end RecordFilter
