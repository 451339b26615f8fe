import RecordFilter.Pattern.Regex

/-! The search for a part of a text of which a regular expression holds. -/

namespace RecordFilter

/-- A set of places in a text, whose number is the bit that stands for it. -/
abbrev Places : Type :=
  Nat

namespace Places

/-- The place at the start of a text, or none. -/
def start (present : Bool) : Places :=
  if present then 1 else 0

/-- The places of a text before those characters that are accepted. -/
def before (accepted : Char → Bool) : List Char → Places
  | [] => 0
  | char :: rest => start (accepted char) + 2 * before accepted rest

/-- The places of a text at which what is asked holds, after a character. -/
def asked (look : Look) (previous : Option Char) : List Char → Places
  | [] => start (look.holds ⟨previous, none⟩)
  | char :: rest => start (look.holds ⟨previous, some char⟩) + 2 * asked look (some char) rest

/-- All places of a text of some length, with the one at its end. -/
def all (length : Nat) : Places :=
  Nat.pow 2 (length + 1) - 1

/-- The places that are in the first set and not in the second. -/
def without (places others : Places) : Places :=
  places ^^^ (places &&& others)

end Places

/-- A way through a given text: which places it leads to from which. -/
inductive Way
  | stay (places : Places)
  | step (places : Places)
  | inOrder (parts : List Way)
  | choice (branches : List Way)
  | repeated (least : Nat) (most : Option Nat) (body : Way)

namespace Way

/-- What a way that is gone a number of times leads to. -/
def times (go : Places → Places) : Nat → Places → Places
  -- Once a round leads back to where it began, so does every other one.
  | 0, places => places
  | rounds + 1, places =>
    let next := go places
    if next = places then places else times go rounds next

/-- What a way that is gone at most a number of times leads to, from places that have just been found. -/
def spread (go : Places → Places) : Nat → Places → Places → Places
  | 0, found, _ => found
  | rounds + 1, found, fresh =>
    if fresh = 0 then found
    else
      let next := (go fresh).without found
      spread go rounds (found ||| next) next

mutual
/-- The places that a way leads to, in a text of some length. -/
def goFrom (length : Nat) : Way → Places → Places
  -- Without a limit there are no more rounds than places that can still be found.
  | .stay places, departures => departures &&& places
  | .step places, departures => (departures &&& places) <<< 1
  | .inOrder parts, departures => goThrough length parts departures
  | .choice branches, departures => goEither length branches departures
  | .repeated least most body, departures =>
    let reached := times (fun places => goFrom length body places) least departures
    let rounds := (most.map (· - least)).elim (length + 1) (min (length + 1))
    spread (fun places => goFrom length body places) rounds reached reached
/-- The places that several ways lead to one after another. -/
def goThrough (length : Nat) : List Way → Places → Places
  | [], departures => departures
  | part :: rest, departures => goThrough length rest (goFrom length part departures)
/-- The places that one of several ways leads to. -/
def goEither (length : Nat) : List Way → Places → Places
  | [], _ => 0
  | branch :: rest, departures => goFrom length branch departures ||| goEither length rest departures
end

end Way

namespace Regex

mutual
/-- The way through a text that an expression allows. -/
def way (chars : List Char) : Regex → Way
  | .empty => .inOrder []
  | .text wanted => .inOrder (wanted.map fun char => .step (Places.before (· == char) chars))
  | .oneOf set => .step (Places.before (fun char => set.contains char.toNat) chars)
  | .look asked => .stay (Places.asked asked none chars)
  | .repeated _ least most body => .repeated least most (body.way chars)
  | .captured body => body.way chars
  | .inOrder parts => .inOrder (ways chars parts)
  | .choice branches => .choice (ways chars branches)
/-- The ways through a text that several expressions allow. -/
def ways (chars : List Char) : List Regex → List Way
  | [] => []
  | part :: rest => part.way chars :: ways chars rest
end

/-- The expression holds of some part of a text. -/
def occursIn (regex : Regex) (text : String) : Bool :=
  -- A part may begin at every place, and it holds if it ends at any.
  let chars := text.toList
  (regex.way chars).goFrom chars.length (Places.all chars.length) != 0

end Regex

end RecordFilter
