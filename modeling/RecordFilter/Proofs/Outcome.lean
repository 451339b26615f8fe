/-! Outcomes that may be errors: what is known of the parts once the outcome of the whole is. -/

namespace RecordFilter.Outcome

/-- An outcome that was passed through a function came from one of the same kind. -/
theorem map_eq_ok {function : α → β} {outcome : Except ε α} {result : β} :
    outcome.map function = .ok result ↔ ∃ value, outcome = .ok value ∧ function value = result := by
  cases outcome <;> simp [Except.map]

/-- A function of the result leaves an error as it is. -/
theorem map_eq_error {function : α → β} {outcome : Except ε α} {error : ε} :
    outcome.map function = .error error ↔ outcome = .error error := by
  cases outcome <;> simp [Except.map]

/-- Renaming errors keeps every result. -/
theorem mapError_eq_ok {rename : ε → ζ} {outcome : Except ε α} {result : α} :
    outcome.mapError rename = .ok result ↔ outcome = .ok result := by
  -- The definition hands a result on as it is, so both sides compare the same constructors.
  cases outcome with
  | ok value =>
    show Except.ok value = .ok result ↔ _
    rw [Except.ok.injEq, Except.ok.injEq]
  | error cause =>
    show Except.error (rename cause) = .ok result ↔ _
    simp

/-- A renamed error comes from an error. -/
theorem mapError_eq_error {rename : ε → ζ} {outcome : Except ε α} {error : ζ} :
    outcome.mapError rename = .error error ↔
      ∃ cause, outcome = .error cause ∧ rename cause = error := by
  -- Renaming turns errors into errors and leaves results alone.
  cases outcome with
  | ok value =>
    show Except.ok value = .error error ↔ _
    simp
  | error cause =>
    show Except.error (rename cause) = .error error ↔ _
    simp

/-- Two steps give a result when the first does and the second does from there. -/
theorem bind_eq_ok {outcome : Except ε α} {next : α → Except ε β} {result : β} :
    outcome.bind next = .ok result ↔ ∃ value, outcome = .ok value ∧ next value = .ok result := by
  cases outcome <;> simp [Except.bind]

/-- Two steps fail when the first does, or when the second does from the first one's result. -/
theorem bind_eq_error {outcome : Except ε α} {next : α → Except ε β} {error : ε} :
    outcome.bind next = .error error ↔
      outcome = .error error ∨ ∃ value, outcome = .ok value ∧ next value = .error error := by
  -- Either the first step fails, or what follows its result does.
  cases outcome <;> simp [Except.bind]

/-- A list is put together when its first item and the list of the others are. -/
theorem cons_eq_ok {first : Except ε α} {others : Except ε (List α)} {result : List α} :
    (do let value ← first; let values ← others; return value :: values) = .ok result ↔
      ∃ value values, first = .ok value ∧ others = .ok values ∧ result = value :: values := by
  -- Either outcome may be an error, and then no list is made.
  cases first with
  | error cause => simp [Bind.bind, Except.bind]
  | ok value =>
    cases others with
    | error cause => simp [Bind.bind, Except.bind]
    | ok values => simp [Bind.bind, Except.bind, Pure.pure, Except.pure, eq_comm]

/-- A list is not put together when its first item is not, or else when the list of the others is not. -/
theorem cons_eq_error {first : Except ε α} {others : Except ε (List α)} {error : ε} :
    (do let value ← first; let values ← others; return value :: values) = .error error ↔
      first = .error error ∨ ∃ value, first = .ok value ∧ others = .error error := by
  -- The second outcome is only looked at once the first one is a result.
  cases first with
  | error cause => simp [Bind.bind, Except.bind]
  | ok value =>
    cases others with
    | error cause => simp [Bind.bind, Except.bind]
    | ok values => simp [Bind.bind, Except.bind, Pure.pure, Except.pure]

/-- Once its first item is there, a list is put together when the list of the others is. -/
theorem cons_of_ok {first : α} {others : Except ε (List α)} :
    (do let value ← Except.ok first; let values ← others; return value :: values) =
      others.map (first :: ·) := by
  cases others <;> rfl

/-- What is left of an outcome when its error is forgotten is its result. -/
theorem toOption_eq_some {outcome : Except ε α} {result : α} :
    outcome.toOption = some result ↔ outcome = .ok result := by
  cases outcome <;> simp [Except.toOption]

/-- A function of the result is one of what is left when the error is forgotten. -/
theorem toOption_map (function : α → β) (outcome : Except ε α) :
    (outcome.map function).toOption = outcome.toOption.map function := by
  cases outcome <;> rfl

/-- Two steps leave a result when the first leaves one from which the second leaves it. -/
theorem toOption_bind (outcome : Except ε α) (next : α → Except ε β) :
    (outcome >>= next).toOption = outcome.toOption.bind fun value => (next value).toOption := by
  cases outcome <;> rfl

/-- Renaming errors has no part in what is done with a result. -/
theorem mapError_map (rename : ε → ζ) (function : α → β) (outcome : Except ε α) :
    (outcome.map function).mapError rename = (outcome.mapError rename).map function := by
  cases outcome <;> rfl

/-- What is the same but for its errors stays so when something is done with the result. -/
theorem mapError_map_congr {rename : ε → ζ} {function : α → β} {outcome other : Except ε α}
    (same : outcome.mapError rename = other.mapError rename) :
    (outcome.map function).mapError rename = (other.map function).mapError rename := by
  rw [mapError_map, mapError_map, same]

/-- Errors of two steps are renamed in each of them. -/
theorem mapError_bind (rename : ε → ζ) (outcome : Except ε α) (next : α → Except ε β) :
    (outcome >>= next).mapError rename =
      outcome.mapError rename >>= fun value => (next value).mapError rename := by
  cases outcome <;> rfl

end RecordFilter.Outcome
