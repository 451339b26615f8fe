import RecordFilter.Pattern.Automaton.Extent

/-! The states that take one of several texts, which share what the texts begin with. -/

namespace RecordFilter.Automaton

/-- Texts by their next byte; those that end here divide the others into parts by preference. -/
inductive Trie
  | node (closed : List (List (UInt8 × Trie))) (active : List (UInt8 × Trie))

namespace Trie

/-- No texts. -/
def empty : Trie :=
  .node [] []

/-- Changes what follows a byte, in an order of bytes. -/
def upsert (byte : UInt8) (change : Trie → Trie) : List (UInt8 × Trie) → List (UInt8 × Trie)
  | [] => [(byte, change empty)]
  | (other, trie) :: rest =>
    if byte = other then (other, change trie) :: rest
    else if byte < other then (byte, change empty) :: (other, trie) :: rest
    else (other, trie) :: upsert byte change rest

/-- No text goes on here. -/
def isLeaf : Trie → Bool
  | .node closed active => closed.all List.isEmpty && active.isEmpty

/-- Adds a text after all others. -/
def insert : List UInt8 → Trie → Trie
  -- What follows the end of a text is less preferred than the text itself.
  | [], .node closed active =>
    if (Trie.node closed active).isLeaf ∧ closed ≠ [] then .node closed active
    else .node (closed ++ [active]) []
  | byte :: rest, .node closed active => .node closed (upsert byte (insert rest) active)

/-- The state that chooses between the bytes of a part, if there are any. -/
def choice (edges : List (UInt8 × Trie)) : Extent :=
  match edges with
  | [] => .none
  | [_] => .simple 1
  | several => ⟨1, several.length, 0⟩

mutual
/-- The states for what follows at a place of a trie. -/
def extent : Trie → Extent
  -- A state branches to the parts, and after each closed one to the end.
  | .node closed active =>
    let parts := (closed ++ [active]).countP fun edges => !edges.isEmpty
    partsExtent closed + (choice active + edgesExtent active) + ⟨1, 0, closed.length + parts⟩
/-- The states for several parts. -/
def partsExtent : List (List (UInt8 × Trie)) → Extent
  | [] => .none
  | edges :: rest => choice edges + edgesExtent edges + partsExtent rest
/-- The states after the bytes of one part; what ends there needs none. -/
def edgesExtent : List (UInt8 × Trie) → Extent
  | [] => .none
  | (_, trie) :: rest => (if trie.isLeaf then .none else trie.extent) + edgesExtent rest
end

end Trie

end RecordFilter.Automaton
