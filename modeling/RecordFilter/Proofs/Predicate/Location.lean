import RecordFilter.Proofs.Predicate.WellFormed

/-! Places in a filter: the nodes they lead to, the types in focus there, and their texts. -/

namespace RecordFilter

namespace Filter

/-- The child of an index; the body of a quantifier is its child zero. -/
def child? : Filter → Nat → Option Filter
  | .group _ _ children, index => children[index]?
  | .nested _ operator body _, 0 => if operator.isQuantifier then some body else none
  | _, _ => none

/-- The node that the indices lead to, from the root on. -/
def at? : List Nat → Filter → Option Filter
  | [], filter => some filter
  | index :: rest, filter => (filter.child? index).bind (at? rest)

/-- The child of an index, beside the type in its focus when the filter has its own one. -/
inductive Under : DataType → Filter → Nat → DataType → Filter → Prop
  | child {combinator : Combinator} {negated : Bool} {children : List Filter} {type : DataType}
      {index : Nat} {child : Filter} (found : children[index]? = some child) :
      Under type (.group combinator negated children) index type child
  | body {path : String} {operator : Operator} {body : Filter} {negated : Bool}
      {type reached inner : DataType} {entered : Bool} (quantifies : operator.isQuantifier = true)
      (reaches : Path.Reaches path type entered reached)
      (handed : reached.bodyType? entered = some inner) :
      Under type (.nested path operator body negated) 0 inner body

/-- The node that the indices lead to, beside the type in its focus. -/
inductive Stands : DataType → Filter → List Nat → DataType → Filter → Prop
  | here {type : DataType} {filter : Filter} : Stands type filter [] type filter
  | under {type inner focus : DataType} {filter child node : Filter} {index : Nat}
      {rest : List Nat} (next : Under type filter index inner child)
      (further : Stands inner child rest focus node) :
      Stands type filter (index :: rest) focus node

/-- What is asked of a node of its own, and not of its children or its body. -/
def Sound (settings : Settings) (type : DataType) : Filter → Prop
  | .condition path operator value _ =>
    operator.isQuantifier = false ∧ ∃ entered reached,
      Path.Reaches path type entered reached ∧ operator.Accepts settings reached (value.getD .null)
  | .nested path operator _ _ =>
    operator.isQuantifier = true ∧ ∃ entered reached inner,
      Path.Reaches path type entered reached ∧ reached.bodyType? entered = some inner
  | .group _ _ children => children = [] → settings.emptyGroups = .identity

variable {settings : Settings} {type : DataType} {filter node : Filter}

/-- A node before a place below a child is the root, below a sibling before the child, or in the child before that place. -/
theorem at?_before_cases {index : Nat} {rest earlier : List Nat} {child : Filter}
    (found : filter.child? index = some child) (less : earlier < index :: rest)
    (there : filter.at? earlier = some node) :
    earlier = [] ∧ filter = node ∨
      (∃ place others sibling, earlier = place :: others ∧ place < index ∧
        filter.child? place = some sibling ∧ sibling.at? others = some node) ∨
      ∃ others, earlier = index :: others ∧ others < rest ∧ child.at? others = some node := by
  -- Indices are compared one by one, so the first of them tells the three apart.
  cases earlier with
  | nil => exact .inl ⟨rfl, Option.some.inj there⟩
  | cons place others =>
    obtain ⟨sibling, foundSibling, below⟩ := Option.bind_eq_some_iff.1 there
    rcases List.cons_lt_cons_iff.1 less with before | ⟨rfl, within⟩
    · exact .inr (.inl ⟨place, others, sibling, rfl, before, foundSibling, below⟩)
    · obtain rfl : child = sibling := Option.some.inj (found.symm.trans foundSibling)
      exact .inr (.inr ⟨others, rfl, within, below⟩)

/-- The child below a filter is the one of that index. -/
theorem Under.child?_eq {index : Nat} {inner : DataType} {child : Filter}
    (under : Under type filter index inner child) : filter.child? index = some child := by
  -- The only child of a nested node is its body, at index 0.
  cases under with
  | child found => exact found
  | body quantifies => simp [child?, quantifies]

/-- A node that stands somewhere is the one at that place. -/
theorem Stands.at?_eq {indices : List Nat} {focus : DataType}
    (stands : Stands type filter indices focus node) : filter.at? indices = some node := by
  -- Types play no part in where a node is found.
  induction stands with
  | here => rfl
  | under next further ih => simp [at?, next.child?_eq, ih]

/-- A well-formed filter passes what is asked of itself. -/
theorem WellFormed.sound (wellFormed : WellFormed settings type filter) :
    filter.Sound settings type := by
  -- The evidence for the whole begins with the evidence for the root.
  cases wellFormed with
  | condition plain reaches accepted => exact ⟨plain, _, _, reaches, accepted⟩
  | nested quantifies reaches handed below => exact ⟨quantifies, _, _, _, reaches, handed⟩
  | group allowed below => exact allowed

/-- The children of a well-formed filter have types in focus, for which they are well-formed. -/
theorem WellFormed.under (wellFormed : WellFormed settings type filter) {index : Nat}
    {child : Filter} (found : filter.child? index = some child) :
    ∃ inner, Under type filter index inner child ∧ WellFormed settings inner child := by
  -- A condition has no children, and a body is there for index zero alone.
  cases wellFormed with
  | condition plain reaches accepted => simp [child?] at found
  | nested quantifies reaches handed below =>
    cases index with
    | succ index => simp [child?] at found
    | zero =>
      simp only [child?, quantifies, if_true, Option.some.injEq] at found
      subst found
      exact ⟨_, .body quantifies reaches handed, below⟩
  | group allowed below =>
    exact ⟨_, .child found, below child (List.mem_of_getElem? found)⟩

/-- Every node of a well-formed filter has a type in focus and passes what is asked of it. -/
theorem WellFormed.sound_at {indices : List Nat} (wellFormed : WellFormed settings type filter)
    (found : filter.at? indices = some node) :
    ∃ focus, Stands type filter indices focus node ∧ node.Sound settings focus := by
  -- The place is followed from the root on, through children that are well-formed in turn.
  induction indices generalizing type filter with
  | nil =>
    simp only [at?, Option.some.injEq] at found
    subst found
    exact ⟨type, .here, wellFormed.sound⟩
  | cons index rest ih =>
    obtain ⟨child, foundChild, foundRest⟩ := Option.bind_eq_some_iff.1 found
    obtain ⟨inner, under, childFormed⟩ := wellFormed.under foundChild
    obtain ⟨focus, stands, sound⟩ := ih childFormed foundRest
    exact ⟨focus, .under under stands, sound⟩

end Filter

/-- What a path reaches is settled by the path and the type it starts from. -/
theorem Path.Reaches.unique {text : String} {type first second : DataType} {crossed entered : Bool}
    (reaches : Reaches text type crossed first) (again : Reaches text type entered second) :
    crossed = entered ∧ first = second := by
  obtain ⟨path, good, leads⟩ := reaches
  obtain ⟨same, goodAgain, leadsAgain⟩ := again
  obtain rfl : path = same := by simpa [good] using goodAgain
  -- The route of the path has one end at most.
  simpa [Route.arrival_eq_ok.2 leads] using Route.arrival_eq_ok.2 leadsAgain

namespace Location

/-- The rows of characters between the slashes of a place's text. -/
def rows (location : Location) : List (List Char) :=
  -- The slash of the root stands between two empty rows.
  match location.indices with
  | [] => [[], []]
  | indices => [] :: indices.map (Nat.toDigits 10)

/-- The text of a place is its rows with slashes between them. -/
theorem toList_text (location : Location) :
    location.text.toList = ['/'].intercalate location.rows := by
  -- A slash before each index is a separator after an empty row.
  obtain ⟨indices⟩ := location
  unfold text rows
  cases indices with
  | nil => rfl
  | cons first rest =>
    simp only [Text.joined, String.toList_intercalate]
    induction rest generalizing first with
    | nil => simp
    | cons second rest ih => simpa [List.intercalate_cons_cons] using ih second

/-- No digit of an index is a slash. -/
theorem slash_notMem_rows (location : Location) : ∀ row ∈ location.rows, '/' ∉ row := by
  -- Rows are made of decimal digits, and a slash is none.
  have digits : ∀ index, '/' ∉ Nat.toDigits 10 index := by
    intro index member
    have digit := Nat.isDigit_of_mem_toDigits (by decide) (by decide) member
    simp [Char.isDigit] at digit
  unfold rows
  split <;> simp [digits]

/-- Places with the same rows are the same. -/
theorem rows_injective : Function.Injective rows := by
  have nonempty : ∀ index, Nat.toDigits 10 index ≠ [] := fun index => Nat.toDigits_ne_nil
  have injective : Function.Injective (Nat.toDigits 10) := by
    intro first second same
    simpa using congrArg (Nat.ofDigitChars 10 · 0) same
  intro location other same
  rcases location with ⟨indices⟩
  rcases other with ⟨others⟩
  -- The root is told apart from all other places by its empty second row.
  cases indices with
  | nil =>
    cases others with
    | nil => rfl
    | cons second others =>
      simp only [rows, List.map_cons, List.cons.injEq, true_and] at same
      exact absurd same.1.symm (nonempty second)
  | cons first rest =>
    cases others with
    | nil =>
      simp only [rows, List.map_cons, List.cons.injEq, true_and] at same
      exact absurd same.1 (nonempty first)
    | cons second others =>
      have equal : first :: rest = second :: others :=
        (List.map_inj_right fun _ _ digits => injective digits).1 (List.cons.inj same).2
      rw [equal]

/-- Different places have different texts. -/
theorem text_injective : Function.Injective text := by
  intro first second same
  -- The rows are found again by cutting the text at its slashes.
  have cut : ∀ location : Location, location.text.toList.splitOn '/' = location.rows := by
    intro location
    rw [toList_text]
    refine List.splitOn_intercalate '/' location.slash_notMem_rows ?_
    unfold rows
    split <;> simp
  exact rows_injective (by rw [← cut, ← cut, same])

end Location

end RecordFilter
