import RecordFilter.Filter.Operator
import RecordFilter.Predicate.Coercion
import RecordFilter.Predicate.Route

/-! Why a filter does not compile, and where in its tree the fault lies. -/

namespace RecordFilter

/-- The place of a node: the index of a child at each step from the root; a body is child zero. -/
structure Location where
  indices : List Nat
  deriving DecidableEq, Repr

namespace Location

/-- The place of the root. -/
def root : Location :=
  ⟨[]⟩

/-- The place of a child. -/
def child (location : Location) (index : Nat) : Location :=
  ⟨location.indices ++ [index]⟩

/-- A place as text: a slash before every index, and a slash alone for the root. -/
def text (location : Location) : String :=
  match location.indices with
  | [] => "/"
  | indices => Text.joined "" (indices.map fun index => "/" ++ toString index)

end Location

/-- A condition that is being compiled, and its place. -/
structure Site where
  location : Location
  path : String
  operator : Operator
  deriving DecidableEq, Repr

/-- How a condition disagrees with the types that its path reaches. -/
inductive Mismatch
  | route (cause : RouteError)
  | coercion (cause : CoercionError)
  | noCollection (type : DataType)
  | noOrder (type : DataType)
  | orderOfNull
  | noText (type : DataType)
  | noTextLiteral (kind : String)
  deriving Repr

/-- The wording of a mismatch. -/
def Mismatch.message (operator : Operator) (mismatch : Mismatch)
    (reasons : Reasons := .untold) : String :=
  match mismatch with
  | .route cause => cause.message
  | .coercion cause => cause.message reasons
  | .noCollection type => operator.name ++ " requires a collection, found " ++ type.text
  | .noOrder type => operator.name ++ " requires a number, date or timestamp, found " ++ type.text
  | .orderOfNull => operator.name ++ " cannot compare against null"
  | .noText type => operator.name ++ " requires a string, found " ++ type.text
  | .noTextLiteral kind =>
    operator.name ++ " requires a string literal, found a " ++ kind ++ " literal"

/-- How an operator and what stands beside it do not go together. -/
inductive Unsupported
  | missingBody
  | unwantedBody
  | missingCandidates (kind : String)
  | unwantedList
  | nestedList
  deriving DecidableEq, Repr

/-- The wording of a combination that is not supported. -/
def Unsupported.message (operator : Operator) : Unsupported → String
  | .missingBody => operator.name ++ " requires a sub-filter to apply to each element"
  | .unwantedBody => operator.name ++ " does not take a sub-filter, only All and Any do"
  | .missingCandidates kind =>
    operator.name ++ " requires a list of candidates, found a " ++ kind ++ " literal"
  | .unwantedList =>
    operator.name ++ " compares against a single value, found a list literal"
  | .nestedList => "nested list literals are not supported"

/-- Why a filter does not compile. -/
inductive CompileError
  | mismatch (site : Site) (cause : Mismatch)
  | malformedPath (site : Site) (cause : PathError)
  | unsupported (site : Site) (cause : Unsupported)
  | invalidPattern (site : Site) (pattern : String)
  | emptyGroup (location : Location) (combinator : Combinator)
  deriving Repr

namespace CompileError

/-- The place of the node at fault. -/
def location : CompileError → Location
  | .mismatch site _ | .malformedPath site _ | .unsupported site _ | .invalidPattern site _ =>
    site.location
  | .emptyGroup location _ => location

/-- The condition at fault, unless it is a group. -/
def site? : CompileError → Option Site
  | .mismatch site _ | .malformedPath site _ | .unsupported site _ | .invalidPattern site _ =>
    some site
  | .emptyGroup _ _ => none

/-- The path and the operator of a condition, as messages show them. -/
def siteText (site : Site) : String :=
  " at node " ++ site.location.text ++ " (path '" ++ site.path ++ "', operator " ++
    site.operator.name ++ ")"

/-- The wording of a compile error. -/
def message (error : CompileError) (reasons : Reasons := .untold) : String :=
  match error with
  | .mismatch site cause =>
    "Schema mismatch" ++ siteText site ++ ": " ++ cause.message site.operator reasons
  | .malformedPath site cause =>
    "Malformed path '" ++ site.path ++ "' at node " ++ site.location.text ++ " (operator " ++
      site.operator.name ++ "): " ++ cause.message
  | .unsupported site cause =>
    "Unsupported combination" ++ siteText site ++ ": " ++ cause.message site.operator
  | .invalidPattern site pattern =>
    "Invalid pattern '" ++ pattern ++ "'" ++ siteText site ++ ": " ++ reasons.pattern pattern
  | .emptyGroup location combinator =>
    "Empty " ++ combinator.name ++ " group at node " ++ location.text

end CompileError

end RecordFilter
