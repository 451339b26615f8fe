import RecordFilter.Schema.Basic

/-! Types taken apart: induction by their parts, and what holds of every part that a type has. -/

namespace RecordFilter.DataType

/-- The type is of values without parts. -/
def isScalar : DataType → Bool
  | .list _ | .record _ _ => false
  | _ => true

/-- What holds of a type whenever it holds of its parts holds of every type. -/
@[elab_as_elim]
theorem byParts {motive : DataType → Prop}
    (scalar : ∀ type : DataType, type.isScalar = true → motive type)
    (list : ∀ element, motive element → motive (.list element))
    (record : ∀ name declared, (∀ field ∈ declared, motive field.2) → motive (.record name declared))
    (type : DataType) : motive type := by
  cases type with
  | list element => exact list element (byParts scalar list record element)
  | record name declared =>
    refine record name declared fun ⟨field, type⟩ member => ?_
    -- A type that a record declares is smaller than the list of declarations it stands in.
    have smaller : sizeOf type < sizeOf declared := by
      have inside := List.sizeOf_lt_of_mem member
      simp only [Prod.mk.sizeOf_spec] at inside
      omega
    exact byParts scalar list record type
  | _ => exact scalar _ rfl
termination_by sizeOf type

/-- The scalars that a type is made of are of a kind, and what its records declare keeps a rule. -/
inductive Everywhere (kind : DataType → Prop) (rule : List (String × DataType) → Prop) :
    DataType → Prop
  | scalar {type : DataType} (scalar : type.isScalar = true) (allowed : kind type) :
      Everywhere kind rule type
  | list {element : DataType} (below : Everywhere kind rule element) :
      Everywhere kind rule (.list element)
  | record {name : String} {declared : List (String × DataType)} (keeps : rule declared)
      (every : ∀ field ∈ declared, Everywhere kind rule field.2) :
      Everywhere kind rule (.record name declared)

namespace Everywhere

variable {kind : DataType → Prop} {rule : List (String × DataType) → Prop} {type : DataType}
  {name sought spelling : String} {declared : List (String × DataType)}

/-- A type without parts is of the kind. -/
theorem kind_of_scalar (scalar : type.isScalar = true) (every : Everywhere kind rule type) :
    kind type := by
  -- Lists and records are not scalars.
  cases every with
  | scalar _ allowed => exact allowed
  | list | record => cases scalar

/-- What holds everywhere in a type of lists does so in what the lists hold. -/
theorem of_list (every : Everywhere kind rule (.list type)) : Everywhere kind rule type := by
  cases every with
  | scalar scalar => cases scalar
  | list below => exact below

/-- What a record type declares keeps the rule. -/
theorem rule_of_record (every : Everywhere kind rule (.record name declared)) : rule declared := by
  cases every with
  | scalar scalar => cases scalar
  | record keeps _ => exact keeps

/-- What holds everywhere in a record type does so in the type that a name finds there. -/
theorem of_lookup? (every : Everywhere kind rule (.record name declared))
    (found : Fields.lookup? sought declared = some (spelling, type)) :
    Everywhere kind rule type := by
  -- What a lookup finds is among the declared fields.
  cases every with
  | scalar scalar => cases scalar
  | record _ every => exact every _ (Fields.mem_of_lookup? found)

end Everywhere

end RecordFilter.DataType
