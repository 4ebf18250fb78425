/-
# Caches by recency

A cache keeps a bounded number of values under keys. Looking a key up and putting a
value both make the key the most recent one; when there is no room for a new key, the
least recent one goes.
-/

namespace CommitHistory

/-- Values under keys, the most recent key first, and how many there is room for. -/
structure RecencyCache (κ α : Type) where
  capacity : Nat
  entries : List (κ × α)
deriving Repr

namespace RecencyCache

variable {κ α : Type} [DecidableEq κ]

/-- An empty cache. There is always room for one value. -/
def make (capacity : Nat) : RecencyCache κ α := { capacity := max capacity 1, entries := [] }

/-- How many values there are. -/
def size (cache : RecencyCache κ α) : Nat := cache.entries.length

/-- The entries with other keys than the given one. -/
def others (cache : RecencyCache κ α) (key : κ) : List (κ × α) :=
  cache.entries.filter fun entry => entry.1 ≠ key

/-- Looks a key up. -/
def find? (cache : RecencyCache κ α) (key : κ) : Option α := cache.entries.lookup key

/-- Makes a key the most recent one, if it is there. -/
def touch (cache : RecencyCache κ α) (key : κ) : RecencyCache κ α :=
  match cache.find? key with
  | none => cache
  | some value => { cache with entries := (key, value) :: cache.others key }

/-- Puts a value under a key. Without room for it the least recent entries go. -/
def put (cache : RecencyCache κ α) (key : κ) (value : α) : RecencyCache κ α :=
  { cache with entries := ((key, value) :: cache.others key).take cache.capacity }

end RecencyCache

end CommitHistory
