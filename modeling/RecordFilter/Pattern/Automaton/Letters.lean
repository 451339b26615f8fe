import RecordFilter.Pattern.Automaton.Cache
import RecordFilter.Pattern.Automaton.Extent
import RecordFilter.Unicode.Encoding

/-! The states that take one character of a set, byte by byte. -/

namespace RecordFilter.Automaton

open Unicode (ByteRange CodeSet)

/-- How many states have been made, how many ranges of bytes they accept, and which can be shared. -/
structure Letters where
  states : Nat
  ranges : Nat
  cache : Cache

namespace Letters

/-- A state that accepts some ranges of bytes, each with the state after it; it is made if need be. -/
def choose (letters : Letters) (moves : List (ByteRange × Nat)) : Nat × Letters :=
  let key := moves.flatMap fun ((first, last), next) => [first, last, next]
  match letters.cache.find? key with
  | some state => (state, letters)
  | none =>
    (letters.states,
      ⟨letters.states + 1, letters.ranges + moves.length,
        letters.cache.insert key letters.states⟩)

/-- A state that accepts one range of bytes before a given state; it is made if need be. -/
def precede (next : Nat) (range : ByteRange) (letters : Letters) : Nat × Letters :=
  let key := [next, range.1, range.2]
  match letters.cache.find? key with
  | some state => (state, letters)
  | none =>
    (letters.states,
      { letters with
        states := letters.states + 1, cache := letters.cache.insert key letters.states })

/-- The state from which sequences of byte ranges, no longer than a depth, lead to a final state. -/
def forwards (final : Nat) : Nat → List (List ByteRange) → Letters → Nat × Letters
  -- Neighbouring sequences with the same first range share the state after it.
  | 0, _, letters => (final, letters)
  | depth + 1, sequences, letters =>
    if sequences.all List.isEmpty then (final, letters)
    else
      let groups := sequences.splitBy fun left right => left.head? == right.head?
      let (moves, letters) := groups.foldl (fun (moves, letters) group =>
        let (next, letters) := forwards final depth (group.map List.tail) letters
        (moves ++ (group.head?.bind List.head?).toList.map fun range => (range, next), letters))
        ([], letters)
      letters.choose moves

/-- The states that lead through sequences of byte ranges backwards. -/
def backwards (final : Nat) (sequences : List (List ByteRange)) (letters : Letters) : Letters :=
  sequences.foldl (fun letters sequence =>
    (sequence.foldl (fun (next, letters) range => letters.precede next range)
      (final, letters)).2) letters

end Letters

/-- What takes one character of a set forwards, made after a number of states. -/
def forwardExtent (made : Nat) (set : CodeSet) : Extent :=
  -- The state after the character comes first.
  let letters : Letters := ⟨made + 1, 0, Cache.ofSize 10000⟩
  let (_, letters) := letters.forwards made 4 (Unicode.Encoding.ofSet set)
  ⟨letters.states - made, letters.ranges, 0⟩

/-- What takes one character of a set backwards, made after a number of states. -/
def backwardExtent (made : Nat) (set : CodeSet) : Extent :=
  -- The state that branches to the last bytes comes first, and then the one before the character.
  let sequences := Unicode.Encoding.ofSet set
  let letters := Letters.backwards (made + 1) sequences ⟨made + 2, 0, Cache.ofSize 1000⟩
  ⟨letters.states - made, 0, sequences.length⟩

/-- What takes one character of a set, made after a number of states. -/
def letterExtent (backward : Bool) (made : Nat) (set : CodeSet) : Extent :=
  -- ASCII characters are bytes, which one state can choose from.
  if set.all fun (_, last) => last < 0x80 then ⟨2, set.length, 0⟩
  else if backward then backwardExtent made set
  else forwardExtent made set

end RecordFilter.Automaton
