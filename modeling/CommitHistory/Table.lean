/-
# Tables

A table holds at most one value for each key. It is known by what `get?` finds: a value
that was put is found under its key, and every other key finds what it found before.
-/

namespace CommitHistory

/-- Values under keys. -/
structure Table (κ α : Type) where
  entries : List (κ × α)
deriving DecidableEq, Repr

namespace Table

variable {κ α : Type} [DecidableEq κ]

/-- The table without entries. -/
def empty : Table κ α := ⟨[]⟩

/-- The value under a key. -/
def get? (table : Table κ α) (key : κ) : Option α := table.entries.lookup key

/-- The entries with other keys than the given one. -/
def others (key : κ) : List (κ × α) → List (κ × α)
  | [] => []
  | (k, value) :: rest => if k = key then others key rest else (k, value) :: others key rest

/-- The table without a key. -/
def erase (table : Table κ α) (key : κ) : Table κ α := ⟨others key table.entries⟩

/-- The table with a value under a key. -/
def put (table : Table κ α) (key : κ) (value : α) : Table κ α :=
  ⟨(key, value) :: (table.erase key).entries⟩

/-- Whether there is a value under a key. -/
def contains (table : Table κ α) (key : κ) : Bool := (table.get? key).isSome

/-- The keys with a value. -/
def keys (table : Table κ α) : List κ := table.entries.map Prod.fst

theorem get?_empty (key : κ) : (empty : Table κ α).get? key = none := rfl

theorem lookup_others (key other : κ) (entries : List (κ × α)) :
    (others key entries).lookup other = if other = key then none else entries.lookup other := by
  fun_induction others key entries with
  | case1 => simp
  | case2 value rest ih =>
    rw [ih]
    by_cases h : other = key
    · simp [h]
    · have hne : (other == key) = false := by simpa using h
      simp [List.lookup_cons, h, hne]
  | case3 k value rest hk ih =>
    by_cases h : other = k
    · have hne : other ≠ key := fun hkey => hk (h ▸ hkey)
      subst h
      simp [hne]
    · have hne : (other == k) = false := by simpa using h
      simp [List.lookup_cons, hne, ih]

@[simp] theorem get?_erase (table : Table κ α) (key other : κ) :
    (table.erase key).get? other = if other = key then none else table.get? other :=
  lookup_others key other table.entries

@[simp] theorem get?_put (table : Table κ α) (key other : κ) (value : α) :
    (table.put key value).get? other = if other = key then some value else table.get? other := by
  by_cases h : other = key
  · simp [get?, put, h]
  · have hne : (other == key) = false := by simpa using h
    simp [get?, put, erase, List.lookup_cons, hne, lookup_others, h]

end Table

end CommitHistory
