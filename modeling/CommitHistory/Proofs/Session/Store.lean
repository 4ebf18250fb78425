/-
# How the rows of one repository change

For one repository the store comes down to three things: the lineage and the graph that are
cached, if any, how often they were dropped, and the scope. A step outside fetches either
drops what is cached, and then the count goes up, or leaves it alone; only a repository
without rows sees the scope change. The count never goes down.

## Main definitions

* `Store.basis?` — what is cached, without the marks.
* `Deed.drops` — the repositories whose rows a deed drops.
* `Store.Drops`, `Store.Keeps` — the two ways in which a deed treats a repository.

## Main results

* `Deed.drops_or_keeps` — every deed treats every repository in one of the two ways.
-/

import CommitHistory.Proofs.Session.Fetch
import CommitHistory.Proofs.Session.Step

namespace CommitHistory

theorem Table.mem_keys_of_get?_eq_some {κ α : Type} [DecidableEq κ] {table : Table κ α} {key : κ}
    {value : α} (found : table.get? key = some value) : key ∈ table.keys := by
  obtain ⟨before, after, entries, -⟩ := List.lookup_eq_some_iff.mp found
  rw [keys, entries]
  simp

namespace Session

namespace Store

variable (store : Store) (id other : RepositoryId)

/-- The lineage and the graph that are cached for a repository. -/
def basis? : Option (Lineage × Graph) :=
  (store.cached.get? id).map fun cached => (cached.lineage, cached.graph)

variable {store id} in
theorem basis?_of_cached {cached : Cached} (held : store.cached.get? id = some cached) :
    store.basis? id = some (cached.lineage, cached.graph) := by
  rw [basis?, held, Option.map_some]

variable {store id} in
theorem exists_cached_of_basis? {lineage : Lineage} {graph : Graph}
    (held : store.basis? id = some (lineage, graph)) :
    ∃ cached, store.cached.get? id = some cached ∧ cached.lineage = lineage ∧
      cached.graph = graph := by
  obtain ⟨cached, found, same⟩ := Option.map_eq_some_iff.mp held
  obtain ⟨rfl, rfl⟩ := Prod.mk.inj same
  exact ⟨cached, found, rfl, rfl⟩

/-! ### Single changes -/

@[simp] theorem scope_invalidate : (store.invalidate id).scope = store.scope := rfl

@[simp] theorem basis?_invalidate :
    (store.invalidate id).basis? other = if other = id then none else store.basis? other := by
  simp only [basis?, invalidate, Table.get?_erase]
  split <;> rfl

@[simp] theorem generation_invalidate :
    (store.invalidate id).generation other =
      if other = id then store.generation id + 1 else store.generation other := by
  simp only [generation, invalidate, Table.get?_put]
  split <;> rfl

theorem scope_foldl_invalidate (ids : List RepositoryId) :
    (ids.foldl invalidate store).scope = store.scope := by
  induction ids generalizing store with
  | nil => rfl
  | cons first rest ih => rw [List.foldl_cons, ih, scope_invalidate]

theorem basis?_foldl_invalidate (ids : List RepositoryId) :
    (ids.foldl invalidate store).basis? other =
      if other ∈ ids then none else store.basis? other := by
  induction ids generalizing store with
  | nil => simp
  | cons first rest ih =>
    rw [List.foldl_cons, ih, basis?_invalidate]
    by_cases same : other = first <;> by_cases later : other ∈ rest <;> simp [same, later]

/-- Dropping the rows of several repositories counts each of them as often as it is named. -/
theorem generation_foldl_invalidate (ids : List RepositoryId) :
    (ids.foldl invalidate store).generation other = store.generation other + ids.count other := by
  induction ids generalizing store with
  | nil => simp
  | cons first rest ih =>
    rw [List.foldl_cons, ih, generation_invalidate, List.count_cons]
    by_cases same : other = first
    · simp only [same, if_true, beq_self_eq_true]
      omega
    · simp [same, Ne.symm same]

variable {store id} in
theorem alter_of_get? {cached : Cached} (there : store.cached.get? id = some cached)
    (change : Cached → Cached) :
    store.alter id change = { store with cached := store.cached.put id (change cached) } := by
  rw [alter, there]

/-- A change of the marks alone changes nothing else. -/
theorem basis?_alter {change : Cached → Cached}
    (marks : ∀ cached, (change cached).lineage = cached.lineage ∧
      (change cached).graph = cached.graph) :
    (store.alter id change).basis? other = store.basis? other := by
  unfold alter
  split
  next => rfl
  next cached held =>
    simp only [basis?, Table.get?_put]
    split
    next same =>
      obtain ⟨lineage, graph⟩ := marks cached
      rw [same, held, Option.map_some, Option.map_some, lineage, graph]
    next => rfl

theorem generation_alter (change : Cached → Cached) :
    (store.alter id change).generation other = store.generation other := by
  unfold alter
  split <;> rfl

theorem scope_alter (change : Cached → Cached) : (store.alter id change).scope = store.scope := by
  unfold alter
  split <;> rfl

variable {store id} in
/-- A change of the marks does not change what a fetch notes. -/
theorem take_alter {change : Cached → Cached}
    (marks : ∀ cached, (change cached).lineage = cached.lineage ∧
      (change cached).graph = cached.graph) :
    Ticket.take (store.alter id change) id = Ticket.take store id := by
  have basis : (store.alter id change).basis? id = store.basis? id :=
    basis?_alter store id id marks
  have generation : (store.alter id change).generation id = store.generation id :=
    generation_alter store id id change
  have scope : (store.alter id change).scope = store.scope := scope_alter store id change
  rw [basis?, basis?] at basis
  rw [Ticket.take, Ticket.take, basis, generation, scope]

/-! ### Deeds -/

/-- The rows of a repository are dropped. -/
structure Drops (id : RepositoryId) (before after : Store) : Prop where
  basis : after.basis? id = none
  generation : before.generation id < after.generation id

/-- The rows of a repository stay as they are, and so does the scope if there are any. -/
structure Keeps (id : RepositoryId) (before after : Store) : Prop where
  basis : after.basis? id = before.basis? id
  generation : after.generation id = before.generation id
  scope : after.scope = before.scope ∨ before.basis? id = none

theorem Keeps.refl : Keeps id store store := ⟨rfl, rfl, Or.inl rfl⟩

variable {store id} in
/-- A change that leaves the cached rows, the counts and the scope alone. -/
theorem Keeps.of_eq {after : Store} (cached : after.cached = store.cached)
    (generations : after.generations = store.generations) (scope : after.scope = store.scope) :
    Keeps id store after := by
  refine ⟨?_, ?_, Or.inl scope⟩
  · simp only [basis?, cached]
  · simp only [Store.generation, generations]

end Store

namespace Deed

open Store

/-- The repositories whose rows a deed drops. -/
def drops (store : Store) : Deed → List RepositoryId
  | .edit (.setScope scope) => if store.scope = scope then [] else store.cached.keys
  | .edit (.clear id) | .remove id => [id]
  | _ => []

variable {before : Session.Store} {id : RepositoryId}

theorem invalidate_drops_or_keeps (before : Session.Store) (id other : RepositoryId) :
    id ∈ [other] ∧ Drops id before (before.invalidate other) ∨
      id ∉ [other] ∧ Keeps id before (before.invalidate other) := by
  rw [List.mem_singleton]
  by_cases same : id = other
  · exact Or.inl ⟨same, by simp [same], by simp [same]⟩
  · exact Or.inr ⟨same, by simp [same], by simp [same], Or.inl rfl⟩

theorem remove_drops_or_keeps (before : Session.Store) (id other : RepositoryId) :
    id ∈ [other] ∧ Drops id before (before.remove other) ∨
      id ∉ [other] ∧ Keeps id before (before.remove other) := by
  -- Only the rows and their count matter here, and they change as when rows are dropped.
  obtain ⟨member, drops⟩ | ⟨other, keeps⟩ := invalidate_drops_or_keeps before id other
  · exact Or.inl ⟨member, drops.basis, drops.generation⟩
  · exact Or.inr ⟨other, keeps.basis, keeps.generation, keeps.scope⟩

theorem alter_keeps {other : RepositoryId} {change : Cached → Cached}
    (marks : ∀ cached, (change cached).lineage = cached.lineage ∧
      (change cached).graph = cached.graph) : Keeps id before (before.alter other change) :=
  ⟨basis?_alter before other id marks, generation_alter before other id change,
    Or.inl (scope_alter before other change)⟩

theorem setScope_drops_or_keeps (before : Session.Store) (id : RepositoryId) (scope : Scope) :
    id ∈ before.cached.keys ∧ Drops id before (before.setScope scope) ∨
      id ∉ before.cached.keys ∧ Keeps id before (before.setScope scope) := by
  by_cases cached : id ∈ before.cached.keys
  · refine Or.inl ⟨cached, ?_, ?_⟩
    · rw [setScope, basis?_foldl_invalidate, if_pos cached]
    · rw [setScope, generation_foldl_invalidate]
      exact Nat.lt_add_of_pos_right (List.count_pos_iff.mpr cached)
  · refine Or.inr ⟨cached, ?_, ?_, Or.inr ?_⟩
    · rw [setScope, basis?_foldl_invalidate, if_neg cached]
      rfl
    · rw [setScope, generation_foldl_invalidate, List.count_eq_zero.mpr cached]
      rfl
    · -- Rows that were there would have been named.
      cases held : before.basis? id with
      | none => rfl
      | some basis =>
        obtain ⟨found, get, -, -⟩ := exists_cached_of_basis? held
        exact absurd (Table.mem_keys_of_get?_eq_some get) cached

/-- Every deed drops the rows of a repository or leaves them alone. -/
theorem drops_or_keeps (deed : Deed) (before : Session.Store) (id : RepositoryId) :
    id ∈ deed.drops before ∧ Drops id before (deed.store before) ∨
      id ∉ deed.drops before ∧ Keeps id before (deed.store before) := by
  cases deed with
  | rest | forget _ => exact Or.inr ⟨List.not_mem_nil, .refl before id⟩
  | mark other | unmark other =>
    exact Or.inr ⟨List.not_mem_nil, alter_keeps fun _ => ⟨rfl, rfl⟩⟩
  | remove other => exact remove_drops_or_keeps before id other
  | edit change =>
    cases change with
    | add _ | choose _ | activate _ => exact Or.inr ⟨List.not_mem_nil, .of_eq rfl rfl rfl⟩
    | setWantsMore other _ => exact Or.inr ⟨List.not_mem_nil, alter_keeps fun _ => ⟨rfl, rfl⟩⟩
    | clear other => exact invalidate_drops_or_keeps before id other
    | setScope scope =>
      simp only [drops, Deed.store]
      split
      next => exact Or.inr ⟨List.not_mem_nil, .refl before id⟩
      next => exact setScope_drops_or_keeps before id scope

end Deed

end Session

end CommitHistory
