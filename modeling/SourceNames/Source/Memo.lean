-- A memory of the results used last. It holds no more than its capacity, and the result
-- not used for the longest time leaves it first.

namespace SourceNames

/-- Results by key, the least recently used first, with room for a positive number. -/
structure Memo (κ α : Type) where
  capacity : Nat
  positive : 0 < capacity
  entries : List (κ × α)

namespace Memo

variable {κ α : Type} [DecidableEq κ]

def empty (capacity : Nat) (positive : 0 < capacity) : Memo κ α := ⟨capacity, positive, []⟩

/-- The keys, the least recently used first. -/
def keys (m : Memo κ α) : List κ := m.entries.map (·.1)

/-- How many results are held. -/
def size (m : Memo κ α) : Nat := m.entries.length

/-- The result held for a key. -/
def find? (m : Memo κ α) (key : κ) : Option α := m.entries.lookup key

/-- Makes a result the most recently used one, and lets go of the oldest ones that there is
no room for. -/
def keep (m : Memo κ α) (key : κ) (result : α) : Memo κ α :=
  let entries := m.entries.filter (·.1 ≠ key) ++ [(key, result)]
  { m with entries := entries.drop (entries.length - m.capacity) }

/-- The result for a key, computed only if none is held, and the memory after this use. -/
def use (m : Memo κ α) (key : κ) (compute : Unit → α) : α × Memo κ α :=
  match m.find? key with
  | some result => (result, m.keep key result)
  | none =>
    let result := compute ()
    (result, m.keep key result)

end Memo

end SourceNames
