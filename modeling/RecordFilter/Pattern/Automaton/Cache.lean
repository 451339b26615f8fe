import Std.Data.HashMap

/-! States that have been made before, so that equal ones can be shared; an entry may displace an older one. -/

namespace RecordFilter.Automaton

/-- The numbers of states by what they do, in a table of which every place holds one entry. -/
structure Cache where
  places : Nat
  entries : Std.HashMap Nat (List Nat × Nat)

namespace Cache

/-- A table without entries. -/
def ofSize (places : Nat) : Cache :=
  ⟨places, ∅⟩

/-- One more number in a sum of numbers, of which every bit matters. -/
def mix (sum : UInt64) (value : Nat) : UInt64 :=
  (sum ^^^ value.toUInt64) * 1099511628211

/-- The place of a table for what a state does. -/
def place (cache : Cache) (key : List Nat) : Nat :=
  (key.foldl mix 14695981039346656037).toNat % cache.places

/-- The state that does a thing, if the table still has it. -/
def find? (cache : Cache) (key : List Nat) : Option Nat := do
  let (found, state) ← cache.entries[cache.place key]?
  guard (found = key)
  return state

/-- Enters the state that does a thing, in place of whichever was there. -/
def insert (cache : Cache) (key : List Nat) (state : Nat) : Cache :=
  { cache with entries := cache.entries.insert (cache.place key) (key, state) }

end Cache

end RecordFilter.Automaton
