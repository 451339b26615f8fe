import RecordFilter.Filter.Path
import RecordFilter.Predicate.Focus
import RecordFilter.Schema.Basic

/-! Routes: how a path runs through a type, before there is any value of it. -/

namespace RecordFilter

/-- Why a path leads nowhere. -/
inductive RouteError
  | noRecord (field : String) (type : DataType)
  | unknownField (field : String) (schema : Schema)
  | noList (field : String) (type : DataType)
  deriving Repr

/-- The wording of a route error. -/
def RouteError.message : RouteError → String
  | .noRecord field type =>
    "cannot access field '" ++ field ++ "' on a value of type " ++ type.text
  | .unknownField field schema =>
    "no field '" ++ field ++ "' in " ++ schema.name ++ " (available: " ++
      Text.joined ", " schema.fieldNames ++ ")"
  | .noList field type => "cannot index field '" ++ field ++ "' of type " ++ type.text

/-- The way of a path through a type: single steps, and lists whose elements are all entered. -/
inductive Route
  | arrive (type : DataType)
  | fail (cause : RouteError)
  | step (taken : Step) (next : Route)
  | spread (element : DataType) (rest : Path) (next : Route)
  deriving Repr

namespace Route

/-- Enters the elements of lists, also of lists of lists, with the path that is still ahead. -/
def within (rest : Path) (follow : DataType → Route) : DataType → Route
  | .list element => .spread element rest (within rest follow element)
  | type => follow type

/-- The item of a list at the index of a segment, if it has one. -/
def index (segment : Segment) (field : String) (type : DataType) (follow : DataType → Route) :
    Route :=
  match segment.index, type with
  | none, type => follow type
  | some place, .list element => .step (.item place) (follow element)
  | some _, type => .fail (.noList field type)

/-- The field of a record that a segment names, and the item at its index. -/
def field (segment : Segment) (type : DataType) (follow : DataType → Route) : Route :=
  -- The step uses the schema's own spelling of the name.
  match type with
  | .record name fields =>
    match Fields.lookup? segment.name fields with
    | some (field, type) => .step (.field field) (index segment field type follow)
    | none => .fail (.unknownField segment.name ⟨name, fields⟩)
  | type => .fail (.noRecord segment.name type)

/-- The route of segments from a type. -/
def ofSegments : List Segment → DataType → Route
  -- A list that the last segment reaches is not entered.
  | [], type => .arrive type
  | segment :: rest, type =>
    within ⟨segment :: rest⟩ (fun type => field segment type (ofSegments rest)) type

end Route

/-- The route of a path from a type. -/
def Path.route (path : Path) (type : DataType) : Route :=
  Route.ofSegments path.segments type

/-- A stretch of a route: to the end of the path, to a list whose elements are entered, or nowhere. -/
inductive Stage
  | value (steps : List Step) (type : DataType)
  | elements (steps : List Step) (element : DataType) (rest : Path)
  | blocked (cause : RouteError)
  deriving Repr

/-- The stages of a route, after some steps of the first one. -/
def Route.stages (before : List Step) : Route → List Stage
  | .arrive type => [.value before type]
  | .fail cause => [.blocked cause]
  | .step taken next => next.stages (before ++ [taken])
  | .spread element rest next => .elements before element rest :: next.stages []

end RecordFilter
