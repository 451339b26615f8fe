import Mathlib.Data.Option.Basic
import RecordFilter.Pattern.Basic

/-! Limits of patterns: they decide whether a pattern is made, and never which one. -/

namespace RecordFilter

namespace Automaton

variable {limit greater : Nat} {part partLarge : Making Bool}

/-- Wherever one making succeeds, the other one makes the same. -/
def Making.Within (small large : Making α) : Prop :=
  ∀ made result, small made = some result → large made = some result

namespace Making.Within

variable {small large : Making α}

/-- Every making makes what it makes. -/
theorem refl (making : Making α) : Within making making :=
  fun _ _ success => success

/-- Two makings in a row succeed where each of them does. -/
theorem bind {next nextLarge : α → Making β} (first : Within small large)
    (others : ∀ result, Within (next result) (nextLarge result)) :
    Within (small >>= next) (large >>= nextLarge) := by
  intro made result success
  -- The first one hands on what it has made and its result.
  obtain ⟨⟨handed, between⟩, here, after⟩ := Option.bind_eq_some_iff.1 success
  exact Option.bind_eq_some_iff.2 ⟨_, first _ _ here, others _ _ _ after⟩

/-- A weaker condition is passed wherever a stronger one is. -/
theorem passes {strong weak : Prop} [Decidable strong] [Decidable weak] (weaker : strong → weak) :
    Within (guard strong : Making Unit) (guard weak) := by
  intro made result success
  -- Without the stronger condition there is no success to carry over.
  by_cases holds : strong
  · rw [guard, if_pos holds] at success
    rw [guard, if_pos (weaker holds)]
    exact success
  · rw [guard, if_neg holds] at success
    cases success

/-- A choice between makings depends on nothing that either of them makes. -/
theorem ite {condition : Prop} [Decidable condition] {other otherLarge : Making α}
    (chosen : Within small large) (otherwise : Within other otherLarge) :
    Within (if condition then small else other) (if condition then large else otherLarge) := by
  -- The condition does not look at the limit, so both sides take the same branch.
  split
  · exact chosen
  · exact otherwise

/-- What fits a limit fits a greater one. -/
theorem add (le : limit ≤ greater) (more : Extent) :
    Within (Automaton.add limit more) (Automaton.add greater more) :=
  bind (refl _) fun _ => bind (passes fun fits => Nat.le_trans fits le) fun _ => refl _

end Making.Within

open Making (Within)

/-- The end of a part is led on alike under a greater limit. -/
theorem lead_within (le : limit ≤ greater) (branching : Bool) :
    Within (lead limit branching) (lead greater branching) := by
  -- Only a branching part costs anything here, and the larger budget pays for it too.
  cases branching with
  | true => exact .add le _
  | false => exact .refl _

/-- More copies of a part are made alike under a greater limit. -/
theorem copies_within (le : limit ≤ greater) (same : Within part partLarge) (count : Nat)
    (branching : Bool) :
    Within (copies limit part count branching) (copies greater partLarge count branching) := by
  -- The end of each copy is led on once the next one is made, so the induction follows their number.
  induction count generalizing branching with
  | zero => exact .refl _
  | succ count ih => exact same.bind fun next => (lead_within le branching).bind fun _ => ih next

/-- A number of copies of a part are made alike under a greater limit. -/
theorem exactly_within (le : limit ≤ greater) (same : Within part partLarge) (count : Nat) :
    Within (exactly limit part count) (exactly greater partLarge count) := by
  -- Zero copies still cost one empty state; otherwise the first copy is the part itself.
  cases count with
  | zero => exact .bind (.add le _) fun _ => .refl _
  | succ count => exact same.bind fun first => copies_within le same count first

/-- Copies that may be passed over are made alike under a greater limit. -/
theorem optionally_within (le : limit ≤ greater) (same : Within part partLarge) (count : Nat)
    (branching : Bool) :
    Within (optionally limit part count branching)
      (optionally greater partLarge count branching) := by
  -- Each further copy costs one split before it, which the induction on their number adds up.
  induction count generalizing branching with
  | zero => exact (lead_within le branching).bind fun _ => .refl _
  | succ count ih =>
    exact .bind (.add le _) fun _ => same.bind fun next => (lead_within le branching).bind fun _ =>
      .bind (.add le _) fun _ => ih next

/-- A repetition without end is made alike under a greater limit. -/
theorem endlessly_within (le : limit ≤ greater) (certain : Bool) (same : Within part partLarge)
    (least : Nat) :
    Within (endlessly limit certain part least) (endlessly greater certain partLarge least) := by
  have add (more : Extent) : Within (Automaton.add limit more) (Automaton.add greater more) :=
    .add le more
  -- Repetitions from none, from one and from more copies on are made differently.
  match least with
  | 0 =>
    cases certain with
    | true =>
      exact (add _).bind fun _ => same.bind fun branching => (add _).bind fun _ =>
        (lead_within le branching).bind fun _ => .refl _
    | false =>
      exact same.bind fun branching => (add _).bind fun _ =>
        (lead_within le branching).bind fun _ => (add _).bind fun _ => .refl _
  | 1 =>
    exact same.bind fun branching => (add _).bind fun _ =>
      (lead_within le branching).bind fun _ => (add _).bind fun _ => .refl _
  | count + 2 =>
    exact (exactly_within le same (count + 1)).bind fun before => same.bind fun branching =>
      (add _).bind fun _ => (lead_within le before).bind fun _ =>
        (lead_within le branching).bind fun _ => (add _).bind fun _ => .refl _

/-- Repetitions are made alike under a greater limit. -/
theorem repeatedly_within (le : limit ≤ greater) (certain : Bool) (same : Within part partLarge)
    (least : Nat) (most : Option Nat) :
    Within (repeatedly limit certain part least most)
      (repeatedly greater certain partLarge least most) := by
  -- The source makes unbounded, fixed and bounded repetitions in three ways.
  cases most with
  | none => exact endlessly_within le certain same least
  | some most =>
    refine .ite (exactly_within le same least) (.ite ?_ ?_)
    · exact .bind (.add le _) fun _ => same.bind fun branching => .bind (.add le _) fun _ =>
        (lead_within le branching).bind fun _ => .refl _
    · exact (exactly_within le same least).bind fun branching => .bind (.add le _) fun _ =>
        optionally_within le same _ branching

end Automaton

namespace Regex

open Automaton Automaton.Making

variable {limit greater : Nat}

mutual
/-- Under a greater limit an expression is made alike. -/
theorem make_within (le : limit ≤ greater) (backward : Bool) (regex : Regex) :
    Within (regex.make limit backward) (regex.make greater backward) := by
  -- Each construct is a row of steps, in which only additions and smaller expressions know the limit.
  cases regex with
  | empty | text | look => exact .bind (.add le _) fun _ => .refl _
  | oneOf set => exact .bind (.refl _) fun _ => .bind (.add le _) fun _ => .refl _
  | repeated eager least most body =>
    exact repeatedly_within le _ (make_within le backward body) least most
  | captured body =>
    have below := make_within le backward body
    cases backward with
    | true => exact below
    | false =>
      exact .bind (.add le _) fun _ => below.bind fun branching => .bind (.add le _) fun _ =>
        (lead_within le branching).bind fun _ => .refl _
  | inOrder parts =>
    cases backward with
    | true => exact (makeBackward_within le parts).bind fun _ => .refl _
    | false => exact (makeForward_within le parts none).bind fun _ => .refl _
  | choice branches =>
    refine .ite ?_ ?_
    · exact .bind (.add le _) fun _ => .refl _
    · exact (makeChoice_within le backward branches 0).bind fun _ => .refl _
/-- Under a greater limit expressions are made alike one after another. -/
theorem makeForward_within (le : limit ≤ greater) (parts : List Regex) (before : Option Bool) :
    Within (makeForward limit parts before) (makeForward greater parts before) := by
  -- Mutual with `make_within`: a list of parts is made head first, each told how the last ended.
  cases parts with
  | nil => exact .refl _
  | cons part rest =>
    exact (make_within le false part).bind fun branching => (lead_within le _).bind fun _ =>
      makeForward_within le rest (some branching)
/-- Under a greater limit expressions are made alike from the last one on. -/
theorem makeBackward_within (le : limit ≤ greater) (parts : List Regex) :
    Within (makeBackward limit parts) (makeBackward greater parts) := by
  -- Backwards the tail is made before the head.
  cases parts with
  | nil => exact .refl _
  | cons part rest =>
    exact (makeBackward_within le rest).bind fun before => (make_within le true part).bind fun _ =>
      (lead_within le _).bind fun _ => .refl _
/-- Under a greater limit the branches of a choice are made alike. -/
theorem makeChoice_within (le : limit ≤ greater) (backward : Bool) (branches : List Regex)
    (before : Nat) :
    Within (makeChoice limit backward branches before)
      (makeChoice greater backward branches before) := by
  -- The number of branches made before is only passed on, so it generalizes freely.
  cases branches with
  | nil => exact .refl _
  | cons branch rest =>
    exact (make_within le backward branch).bind fun branching => .bind (.add le _) fun _ =>
      (lead_within le branching).bind fun _ => makeChoice_within le backward rest (before + 1)
end

/-- An expression that fits a limit fits a greater one. -/
theorem fits_of_le (le : limit ≤ greater) {regex : Regex} (fits : regex.fits limit = true) :
    regex.fits greater = true := by
  -- A plain expression is not made at all, and the others have to be made in both directions.
  have search (backward : Bool) :
      Within (regex.makeSearch limit backward) (regex.makeSearch greater backward) :=
    .bind (.add le _) fun _ => (make_within le backward _).bind fun branching =>
      .bind (.add le _) fun _ => (lead_within le branching).bind fun _ => .add le _
  have made (backward : Bool) (some : (regex.makeSearch limit backward .none).isSome = true) :
      (regex.makeSearch greater backward .none).isSome = true := by
    obtain ⟨result, success⟩ := Option.isSome_iff_exists.1 some
    exact Option.isSome_iff_exists.2 ⟨result, search backward _ _ success⟩
  simp only [Regex.fits, Bool.or_eq_true, Bool.and_eq_true] at fits ⊢
  exact fits.imp_right fun both => ⟨made false both.1, made true both.2⟩

end Regex

namespace Pattern

variable {limit greater : Nat} {text : String} {pattern : Pattern}

/-- A text is a pattern when it is one apart from any limit, and fits the limit. -/
theorem compile?_eq_some : compile? limit text = some pattern ↔
    ((Expression.read? text).bind Expression.regex? = some pattern.regex ∧
      pattern.regex.fits limit = true) := by
  -- The three stages (reading, meaning, size) come out of the monad one by one.
  simp only [compile?, Option.bind_eq_bind, Option.bind_eq_some_iff, Option.guard_eq_some',
    Option.pure_def, Option.some.injEq]
  constructor
  · rintro ⟨expression, read, regex, meant, -, fits, rfl⟩
    exact ⟨⟨expression, read, meant⟩, fits⟩
  · rintro ⟨⟨expression, read, meant⟩, fits⟩
    exact ⟨expression, read, pattern.regex, meant, (), fits, rfl⟩

/-- A pattern that fits a limit is the same one under a greater limit. -/
theorem compile?_of_le (le : limit ≤ greater) (compiled : compile? limit text = some pattern) :
    compile? greater text = some pattern := by
  -- The limit is only asked whether the program fits it.
  rw [compile?_eq_some] at compiled ⊢
  exact ⟨compiled.1, Regex.fits_of_le le compiled.2⟩

/-- Two limits never make different patterns of one text. -/
theorem compile?_unique {other : Pattern} (compiled : compile? limit text = some pattern)
    (again : compile? greater text = some other) : pattern = other := by
  -- Both hold the regular expression that the text means, in which the limit has no part.
  rw [compile?_eq_some] at compiled again
  have same : pattern.regex = other.regex := Option.some.inj (compiled.1.symm.trans again.1)
  cases pattern
  cases other
  exact congrArg Pattern.mk same

end Pattern

end RecordFilter
