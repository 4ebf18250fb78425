/-
# Worlds without a repository

Two worlds are alike apart from a repository if the second knows what the first knows of all other
repositories, and nothing of this one. Whatever is done for the repository in the first world keeps
them alike, and so does what is done for another one in both. The turnstiles that were ever set up
for the repository are missing in the second world, so the others have smaller numbers there, and
so have the tasks.

## Main definitions

* `Store.Apart`, `Gates.Apart`, `World.Apart` — the worlds are alike apart from a repository.
* `Deed.owner?` — the repository that a deed is about.

## Main results

* `Store.Apart.deed_of_own`, `Store.Apart.deed` — what deeds do to stores that are alike.
* `Gates.Apart.find_of_own`, `Gates.Apart.find` — what searches for a turnstile do.
-/

import CommitHistory.Proofs.Session.Omission
import CommitHistory.Proofs.Session.Queue

namespace CommitHistory

/-! ### Tables -/

namespace Table

variable {κ α : Type} [DecidableEq κ] (table : Table κ α) {key other : κ}

theorem others_eq_filter (key : κ) (entries : List (κ × α)) :
    others key entries = entries.filter fun entry => entry.1 ≠ key := by
  fun_induction others key entries with
  | case1 => rfl
  | case2 value rest ih => simp [ih]
  | case3 k value rest different ih => simp [ih, different]

theorem erase_comm (key other : κ) :
    (table.erase key).erase other = (table.erase other).erase key := by
  simp only [erase, others_eq_filter]
  rw [List.filter_comm]

theorem erase_put_of_ne (different : other ≠ key) (value : α) :
    (table.put other value).erase key = (table.erase key).put other value := by
  have comm := congrArg entries (table.erase_comm other key)
  simp only [erase] at comm
  simp only [erase, put, others, if_neg different, comm]

theorem erase_put_self (key : κ) (value : α) :
    (table.put key value).erase key = table.erase key := by
  simp [erase, put, others_eq_filter, List.filter_filter]

theorem erase_erase (key : κ) : (table.erase key).erase key = table.erase key := by
  simp only [erase, others_eq_filter, List.filter_filter, Bool.and_self]

theorem keys_erase (key : κ) :
    (table.erase key).keys = table.keys.filter fun other => other ≠ key := by
  simp only [keys, erase, others_eq_filter, List.filter_map]
  rfl

theorem get?_erase_of_ne (different : other ≠ key) :
    (table.erase key).get? other = table.get? other := by
  rw [get?_erase, if_neg different]

end Table

namespace Session

variable {id name : RepositoryId}

/-! ### Stores -/

/-- The second store knows what the first knows apart from a repository. What is selected in the
two may differ. -/
structure Store.Apart (id : RepositoryId) (store other : Store) : Prop where
  repositories : other.repositories = store.repositories.erase id
  cached : other.cached = store.cached.erase id
  generations : other.generations = store.generations.erase id
  scope : other.scope = store.scope

/-- The repository that a deed is about. -/
def Deed.owner? : Deed → Option RepositoryId
  | .rest => none
  | .edit change => change.owner?
  | .remove id | .forget id | .mark id | .unmark id => some id

namespace Store.Apart

variable {store other : Store}

theorem empty (id : RepositoryId) (scope : Scope) : Apart id (.empty scope) (.empty scope) :=
  ⟨rfl, rfl, rfl, rfl⟩

variable (apart : Apart id store other)

include apart

theorem get?_cached (different : name ≠ id) : other.cached.get? name = store.cached.get? name := by
  rw [apart.cached, Table.get?_erase_of_ne _ different]

theorem generation (different : name ≠ id) : other.generation name = store.generation name := by
  rw [Store.generation, apart.generations, Table.get?_erase_of_ne _ different, Store.generation]

theorem fresh? (different : name ≠ id) : other.fresh? name = store.fresh? name := by
  rw [Store.fresh?, apart.get?_cached different, Store.fresh?]

theorem isLoadingMore (different : name ≠ id) :
    other.isLoadingMore name = store.isLoadingMore name := by
  rw [Store.isLoadingMore, apart.get?_cached different, Store.isLoadingMore]

theorem take (different : name ≠ id) : Ticket.take other name = Ticket.take store name := by
  rw [Ticket.take, apart.get?_cached different, apart.generation different, apart.scope,
    Ticket.take]

theorem isValid (different : name ≠ id) (ticket : Ticket) :
    ticket.isValid other name = ticket.isValid store name := by
  rw [Ticket.isValid, apart.generation different, apart.scope, Ticket.isValid]

/-! What is done for the repository in the first store. -/

theorem put_of_own (cached : Cached) :
    Apart id { store with cached := store.cached.put id cached } other :=
  { apart with cached := by rw [apart.cached, Table.erase_put_self] }

theorem alter_of_own (change : Cached → Cached) : Apart id (store.alter id change) other := by
  cases held : store.cached.get? id with
  | none =>
    rw [Store.alter, held]
    exact apart
  | some cached =>
    rw [Store.alter_of_get? held]
    exact apart.put_of_own (change cached)

theorem invalidate_of_own : Apart id (store.invalidate id) other :=
  { apart with
    cached := by rw [apart.cached, Store.invalidate, Table.erase_erase]
    generations := by rw [apart.generations, Store.invalidate, Table.erase_put_self] }

/-! What is done for another repository in both stores. -/

theorem put (different : name ≠ id) (cached : Cached) :
    Apart id { store with cached := store.cached.put name cached }
      { other with cached := other.cached.put name cached } :=
  { apart with cached := by rw [apart.cached, Table.erase_put_of_ne _ different] }

theorem alter (different : name ≠ id) (change : Cached → Cached) :
    Apart id (store.alter name change) (other.alter name change) := by
  cases held : store.cached.get? name with
  | none =>
    rw [Store.alter, held, Store.alter, apart.get?_cached different, held]
    exact apart
  | some cached =>
    have here := (apart.get?_cached different).trans held
    rw [Store.alter_of_get? held, Store.alter_of_get? here]
    exact apart.put different (change cached)

theorem invalidate (different : name ≠ id) :
    Apart id (store.invalidate name) (other.invalidate name) :=
  { apart with
    cached := by rw [Store.invalidate, Store.invalidate, apart.cached, Table.erase_comm]
    generations := by
      rw [Store.invalidate, Store.invalidate, apart.generation different, apart.generations,
        Table.erase_put_of_ne _ different] }

omit apart in
theorem foldl_invalidate (names : List RepositoryId) (apart : Apart id store other) :
    Apart id (names.foldl Store.invalidate store)
      ((names.filter fun name => name ≠ id).foldl Store.invalidate other) := by
  induction names generalizing store other with
  | nil => exact apart
  | cons name rest ih =>
    by_cases same : name = id
    · subst same
      rw [List.filter_cons_of_neg (by simp), List.foldl_cons]
      exact ih apart.invalidate_of_own
    · rw [List.filter_cons_of_pos (by simp [same]), List.foldl_cons, List.foldl_cons]
      exact ih (apart.invalidate same)

/-- A new scope drops the rows of all repositories but the one that is missing. -/
theorem setScope (scope : Scope) : Apart id (store.setScope scope) (other.setScope scope) := by
  have rescoped : Apart id { store with scope } { other with scope } := { apart with scope := rfl }
  -- The rows that are dropped are those of the repositories that have any, in the same order.
  have keys : other.cached.keys = store.cached.keys.filter fun name => name ≠ id := by
    rw [apart.cached, Table.keys_erase]
  rw [Store.setScope, Store.setScope, keys]
  exact rescoped.foldl_invalidate store.cached.keys

/-- What a deed about the repository does in the first store cannot be seen in the second. -/
theorem deed_of_own {deed : Deed} (own : deed.owner? = some id) :
    Apart id (deed.store store) other := by
  cases deed with
  | rest => cases own
  | forget _ => exact apart
  | mark _ | unmark _ =>
    obtain rfl := Option.some.inj own
    exact apart.alter_of_own _
  | remove _ =>
    obtain rfl := Option.some.inj own
    exact { apart.invalidate_of_own with
      repositories := by
        rw [apart.repositories, Deed.store, Store.remove]
        exact (Table.erase_erase _ _).symm }
  | edit change =>
    cases change with
    | add repository =>
      obtain rfl := Option.some.inj own
      exact { apart with
        repositories := by
          rw [apart.repositories, Deed.store, Store.add, Table.erase_put_self] }
    | setWantsMore _ _ =>
      obtain rfl := Option.some.inj own
      exact apart.alter_of_own _
    | clear _ =>
      obtain rfl := Option.some.inj own
      exact apart.invalidate_of_own
    | _ => cases own

/-- A deed about another repository, or about none, does the same in both stores. -/
theorem deed (deed : Deed) (different : deed.owner? ≠ some id) :
    Apart id (deed.store store) (deed.store other) := by
  have names {name : RepositoryId} (owner : deed.owner? = some name) : name ≠ id := by
    rintro rfl
    exact different owner
  cases deed with
  | rest | forget _ => exact apart
  | mark _ | unmark _ => exact apart.alter (names rfl) _
  | remove name =>
    exact { apart.invalidate (names rfl) with
      repositories := by
        rw [Deed.store, Deed.store, Store.remove, Store.remove]
        simp only [Store.invalidate, apart.repositories, Table.erase_comm] }
  | edit change =>
    cases change with
    | add repository =>
      exact { apart with
        repositories := by
          rw [Deed.store, Deed.store, Store.add, Store.add, apart.repositories,
            Table.erase_put_of_ne _ (names rfl)] }
    | choose _ | activate _ => exact { apart with }
    | setWantsMore _ _ => exact apart.alter (names rfl) _
    | clear _ => exact apart.invalidate (names rfl)
    | setScope scope =>
      rw [Deed.store, Deed.store, apart.scope]
      split
      · exact apart
      · exact apart.setScope scope

end Store.Apart

/-! ### Turnstiles -/

/-- The turnstile with other numbers for the tasks. -/
def Turnstile.renumber (rename : Nat → Nat) (turnstile : Turnstile) : Turnstile :=
  { holder := turnstile.holder.map rename, waiting := turnstile.waiting.map rename }

namespace Turnstile

variable {rename : Nat → Nat} {turnstile : Turnstile}

theorem renumber_enter (rename : Nat → Nat) (turnstile : Turnstile) (task : Nat) :
    (turnstile.enter task).renumber rename = (turnstile.renumber rename).enter (rename task) := by
  unfold enter renumber
  cases turnstile.holder <;> simp

theorem renumber_leave (rename : Nat → Nat) (turnstile : Turnstile) :
    turnstile.leave.renumber rename = (turnstile.renumber rename).leave := by
  unfold leave renumber
  cases turnstile.waiting <;> rfl

theorem renumber_congr {other : Nat → Nat}
    (same : ∀ task ∈ turnstile.tasks, rename task = other task) :
    turnstile.renumber rename = turnstile.renumber other := by
  have holder : turnstile.holder.map rename = turnstile.holder.map other :=
    Option.map_congr fun task held => same task (by simp [tasks, held])
  have waiting : turnstile.waiting.map rename = turnstile.waiting.map other :=
    List.map_congr_left fun task member => same task (List.mem_append_right _ member)
  rw [renumber, holder, waiting, renumber]

/-- Whether a task is inside can be told from the new numbers if nobody who is there has the new
number of the task. -/
theorem admits_renumber {task : Nat}
    (apart : ∀ other ∈ turnstile.tasks, rename other = rename task → other = task) :
    (turnstile.renumber rename).admits (rename task) = turnstile.admits task := by
  unfold admits renumber
  cases held : turnstile.holder with
  | none => rfl
  | some other =>
    have known : rename other = rename task ↔ other = task :=
      ⟨apart other (by simp [tasks, held]), congrArg rename⟩
    simp [known]

end Turnstile

/-! ### Whose turnstiles there are -/

theorem getElem?_append_of_some {α : Type} {items : List α} {item : α} {place : Nat}
    (held : items[place]? = some item) (more : List α) : (items ++ more)[place]? = some item := by
  rw [List.getElem?_append_left (List.getElem?_eq_some_iff.mp held).1, held]

namespace Gates

/-- The repository for which a search sets a turnstile up, if there is none. -/
def setUp (gates : Gates) (name : RepositoryId) : List RepositoryId :=
  if gates.current.contains name then [] else [name]

/-- The turnstiles were set up for these repositories one after the other. -/
structure Owned (owners : List RepositoryId) (gates : Gates) : Prop where
  length : gates.turnstiles.length = owners.length
  current : ∀ name gate, gates.current.get? name = some gate → owners[gate]? = some name

variable {gates : Gates} {owners : List RepositoryId}

theorem setUp_of_some {gate : Nat} (held : gates.current.get? name = some gate) :
    gates.setUp name = [] := by
  rw [setUp, Table.contains, held]
  rfl

theorem setUp_of_none (absent : gates.current.get? name = .none) : gates.setUp name = [name] := by
  rw [setUp, Table.contains, absent]
  rfl

/-- Nobody is at the turnstile that is set up next. -/
theorem turnstile_length (gates : Gates) : gates.turnstile gates.turnstiles.length = .free := by
  rw [turnstile, List.getD_eq_getElem?_getD, List.getElem?_eq_none Nat.le.refl, Option.getD_none]

theorem find_of_some {gate : Nat} (held : gates.current.get? name = some gate) :
    gates.find name = (gates, gate) := by
  rw [find, held]

theorem find_of_none (absent : gates.current.get? name = .none) :
    gates.find name =
      ({ turnstiles := gates.turnstiles ++ [.free]
         current := gates.current.put name gates.turnstiles.length }, gates.turnstiles.length) := by
  rw [find, absent]

/-- The turnstile that a search finds is one of the repository's. -/
theorem Owned.getElem?_find (owned : gates.Owned owners) (name : RepositoryId) :
    (owners ++ gates.setUp name)[(gates.find name).2]? = some name := by
  cases held : gates.current.get? name with
  | some gate =>
    rw [setUp_of_some held, find_of_some held, List.append_nil]
    exact owned.current name gate held
  | none =>
    rw [setUp_of_none held, find_of_none held, owned.length]
    exact List.getElem?_concat_length

theorem Owned.find (owned : gates.Owned owners) (name : RepositoryId) :
    (gates.find name).1.Owned (owners ++ gates.setUp name) := by
  refine ⟨?_, fun other gate current => ?_⟩
  · cases held : gates.current.get? name with
    | some gate =>
      rw [setUp_of_some held, find_of_some held, List.append_nil]
      exact owned.length
    | none => simp [setUp_of_none held, find_of_none held, owned.length]
  · rw [get?_current_find] at current
    split at current
    next same =>
      obtain rfl := Option.some.inj current
      exact same ▸ owned.getElem?_find name
    next => exact getElem?_append_of_some (owned.current other gate current) _

end Gates

/-! ### Turnstiles without those of a repository -/

/-- The number of a turnstile when those of a repository are missing. -/
def place (id : RepositoryId) (owners : List RepositoryId) (gate : Nat) : Nat :=
  rank (fun name => name ≠ id) owners gate

/-- The turnstiles that were set up for certain repositories, and those of the same repositories
without one of them. -/
structure Gates.Apart (id : RepositoryId) (known : List Call) (owners : List RepositoryId)
    (gates other : Gates) : Prop where
  size : other.turnstiles.length = owners.countP fun name => name ≠ id
  found : ∀ name, name ≠ id →
    other.current.get? name = (gates.current.get? name).map (place id owners)
  turnstile : ∀ gate name, owners[gate]? = some name → name ≠ id →
    other.turnstile (place id owners gate) = (gates.turnstile gate).renumber (number id known)

theorem place_append {owners : List RepositoryId} (more : List RepositoryId) {gate : Nat}
    (inside : gate ≤ owners.length) : place id (owners ++ more) gate = place id owners gate :=
  rank_append more inside

theorem place_lt {owners : List RepositoryId} {gate : Nat} (owner : owners[gate]? = some name)
    (different : name ≠ id) : place id owners gate < owners.countP fun name => name ≠ id :=
  rank_lt_countP owner (decide_eq_true different)

namespace Gates.Apart

variable {known : List Call} {owners : List RepositoryId} {gates other : Gates} {gate : Nat}

theorem none (id : RepositoryId) : Apart id [] [] .none .none :=
  ⟨rfl, fun _ _ => rfl, fun _ _ owner => nomatch owner⟩

/-- If one turnstile changes in the same way, all that was alike stays alike. -/
theorem of_change {gates' other' : Gates} {changed changed' : Turnstile}
    (apart : Apart id known owners gates other) (owner : owners[gate]? = some name)
    (different : name ≠ id)
    (here : ∀ seat, gates'.turnstile seat = if seat = gate then changed else gates.turnstile seat)
    (there : ∀ seat, other'.turnstile seat =
      if seat = place id owners gate then changed' else other.turnstile seat)
    (same : changed' = changed.renumber (number id known))
    (current : gates'.current = gates.current) (current' : other'.current = other.current)
    (length : other'.turnstiles.length = other.turnstiles.length) :
    Apart id known owners gates' other' := by
  refine ⟨length.trans apart.size, ?_, fun seat name' owner' different' => ?_⟩
  · rw [current, current']
    exact apart.found
  · rw [here, there]
    by_cases equal : seat = gate
    · subst equal
      rw [if_pos rfl, if_pos rfl, same]
    · -- Different turnstiles have different numbers, so no other one is touched.
      have distinct : place id owners seat ≠ place id owners gate := fun same => equal
        (rank_injective owner' owner (decide_eq_true different') (decide_eq_true different) same)
      rw [if_neg equal, if_neg distinct]
      exact apart.turnstile seat name' owner' different'

/-- A change of a turnstile of the repository cannot be seen. -/
theorem of_change_of_own {gates' : Gates} {changed : Turnstile}
    (apart : Apart id known owners gates other) (own : owners[gate]? = some id)
    (here : ∀ seat, gates'.turnstile seat = if seat = gate then changed else gates.turnstile seat)
    (current : gates'.current = gates.current) : Apart id known owners gates' other := by
  refine ⟨apart.size, ?_, fun seat name owner different => ?_⟩
  · rw [current]
    exact apart.found
  · have distinct : seat ≠ gate := by
      rintro rfl
      exact different (Option.some.inj (owner.symm.trans own))
    rw [here, if_neg distinct]
    exact apart.turnstile seat name owner different

variable (apart : Apart id known owners gates other)

include apart

theorem leave_of_own (own : owners[gate]? = some id) :
    Apart id known owners (gates.leave gate) other :=
  apart.of_change_of_own own (gates.turnstile_leave gate) rfl

theorem leave (owner : owners[gate]? = some name) (different : name ≠ id) :
    Apart id known owners (gates.leave gate) (other.leave (place id owners gate)) := by
  refine apart.of_change owner different (gates.turnstile_leave gate) (other.turnstile_leave _) ?_
    rfl rfl (by simp)
  rw [apart.turnstile gate name owner different, Turnstile.renumber_leave]

theorem enter_of_own (length : gates.turnstiles.length = owners.length)
    (own : owners[gate]? = some id) (task : Nat) :
    Apart id known owners (gates.enter gate task) other := by
  obtain ⟨inside, -⟩ := List.getElem?_eq_some_iff.mp own
  exact apart.of_change_of_own own (gates.turnstile_enter (length ▸ inside) task) rfl

theorem enter (length : gates.turnstiles.length = owners.length)
    (owner : owners[gate]? = some name) (different : name ≠ id) (task : Nat) :
    Apart id known owners (gates.enter gate task)
      (other.enter (place id owners gate) (number id known task)) := by
  obtain ⟨inside, -⟩ := List.getElem?_eq_some_iff.mp owner
  have there : place id owners gate < other.turnstiles.length :=
    apart.size ▸ place_lt owner different
  refine apart.of_change owner different (gates.turnstile_enter (length ▸ inside) task)
    (other.turnstile_enter there (number id known task)) ?_ rfl rfl (by simp)
  rw [apart.turnstile gate name owner different, Turnstile.renumber_enter]

theorem forget_of_own : Apart id known owners (gates.forget id) other := by
  refine { apart with found := fun name different => ?_ }
  rw [forget, Table.get?_erase_of_ne _ different]
  exact apart.found name different

theorem forget (name : RepositoryId) :
    Apart id known owners (gates.forget name) (other.forget name) := by
  refine { apart with found := fun name' different => ?_ }
  rw [Gates.forget, Gates.forget, Table.get?_erase, Table.get?_erase]
  split
  · rfl
  · exact apart.found name' different

theorem admits (owner : owners[gate]? = some name) (different : name ≠ id) {task : Nat}
    (alone : ∀ other ∈ gates.queue gate, number id known other = number id known task →
      other = task) :
    other.admits (place id owners gate) (number id known task) = gates.admits gate task := by
  rw [Gates.admits, apart.turnstile gate name owner different]
  exact Turnstile.admits_renumber alone

/-- Whoever comes to a turnstile of another repository is inside in both worlds or in none. -/
theorem admits_enter (settled : gates.Settled) (length : gates.turnstiles.length = owners.length)
    (owner : owners[gate]? = some name) (different : name ≠ id) {task : Nat}
    (alone : ∀ other ∈ gates.queue gate, number id known other = number id known task →
      other = task) :
    (other.enter (place id owners gate) (number id known task)).admits (place id owners gate)
      (number id known task) = (gates.enter gate task).admits gate task := by
  obtain ⟨inside, -⟩ := List.getElem?_eq_some_iff.mp owner
  refine (apart.enter length owner different task).admits owner different fun guest here same => ?_
  rw [queue_enter settled (length ▸ inside), if_pos rfl, List.mem_append] at here
  obtain there | rfl := here.imp_right List.mem_singleton.mp
  · exact alone guest there same
  · rfl

/-- A search for the repository's own turnstile cannot be seen. -/
theorem find_of_own (owned : gates.Owned owners) :
    Apart id known (owners ++ gates.setUp id) (gates.find id).1 other := by
  cases held : gates.current.get? id with
  | some gate =>
    rw [setUp_of_some held, find_of_some held, List.append_nil]
    exact apart
  | none =>
    have place_of_owned {gate : Nat} {name : RepositoryId} (owner : owners[gate]? = some name) :
        place id (owners ++ [id]) gate = place id owners gate :=
      place_append [id] (Nat.le_of_lt (List.getElem?_eq_some_iff.mp owner).1)
    rw [setUp_of_none held]
    refine ⟨?_, fun name different => ?_, fun gate name owner different => ?_⟩
    · simp [apart.size]
    · rw [get?_current_find, if_neg different, apart.found name different]
      exact Option.map_congr fun gate current =>
        (place_of_owned (owned.current name gate current)).symm
    · rw [List.getElem?_append] at owner
      split at owner
      next =>
        rw [place_of_owned owner, turnstile_find]
        exact apart.turnstile gate name owner different
      next =>
        -- The last turnstile is the repository's own.
        exact absurd (List.mem_singleton.mp (List.mem_of_getElem? owner)) different

/-- A search for another turnstile finds the same one. -/
theorem find (owned : gates.Owned owners) (different : name ≠ id) :
    Apart id known (owners ++ gates.setUp name) (gates.find name).1 (other.find name).1 ∧
      (other.find name).2 = place id (owners ++ gates.setUp name) (gates.find name).2 := by
  have there := apart.found name different
  cases held : gates.current.get? name with
  | some gate =>
    rw [held, Option.map_some] at there
    rw [setUp_of_some held, find_of_some held, find_of_some there, List.append_nil]
    exact ⟨apart, rfl⟩
  | none =>
    rw [held, Option.map_none] at there
    have place_of_owned {gate : Nat} {other : RepositoryId} (owner : owners[gate]? = some other) :
        place id (owners ++ [name]) gate = place id owners gate :=
      place_append [name] (Nat.le_of_lt (List.getElem?_eq_some_iff.mp owner).1)
    -- The turnstile that is set up comes last in both worlds.
    have last : place id (owners ++ [name]) owners.length = other.turnstiles.length := by
      rw [place_append [name] Nat.le.refl, place, rank_length, apart.size]
    rw [setUp_of_none held]
    refine ⟨⟨?_, fun seeker different => ?_, fun gate owner held' different' => ?_⟩, ?_⟩
    · simp [find_of_none there, apart.size, different]
    · rw [get?_current_find, get?_current_find, find_of_none there, find_of_none held]
      split
      · rw [Option.map_some, owned.length, last]
      · rw [apart.found seeker different]
        exact Option.map_congr fun gate current =>
          (place_of_owned (owned.current seeker gate current)).symm
    · rw [turnstile_find, turnstile_find]
      rw [List.getElem?_append] at held'
      split at held'
      next =>
        rw [place_of_owned held']
        exact apart.turnstile gate owner held' different'
      next beyond =>
        -- Nobody is at a turnstile that has just been set up.
        obtain ⟨inside, -⟩ := List.getElem?_eq_some_iff.mp held'
        have gate_eq : gate = owners.length := by
          rw [List.length_singleton] at inside
          omega
        subst gate_eq
        rw [last, turnstile_length, ← owned.length, turnstile_length]
        rfl
    · rw [find_of_none there, find_of_none held, owned.length, last]

omit apart in
/-- More calls change nothing, since nobody comes to a turnstile before its call. -/
theorem of_known (more : List Call) (apart : Apart id known owners gates other)
    (guests : ∀ gate, ∀ task ∈ gates.queue gate, task ≤ known.length) :
    Apart id (known ++ more) owners gates other := by
  refine { apart with turnstile := fun gate name owner different => ?_ }
  rw [apart.turnstile gate name owner different]
  exact Turnstile.renumber_congr fun task here =>
    (number_append more (guests gate task here)).symm

end Gates.Apart

/-! ### Worlds -/

/-- The worlds are alike apart from a repository, after some calls and with the turnstiles of some
repositories. Notices and the tree that is shown are left aside. -/
structure World.Apart (id : RepositoryId) (known : List Call) (owners : List RepositoryId)
    (world other : World) : Prop where
  pageSize : other.pageSize = world.pageSize
  store : Store.Apart id world.store other.store
  gates : Gates.Apart id known owners world.gates other.gates

namespace World.Apart

variable {known : List Call} {owners : List RepositoryId} {world other world' other' : World}

theorem start (id : RepositoryId) (pageSize : Nat) (scope : Scope) :
    Apart id [] [] (.start pageSize scope) (.start pageSize scope) :=
  ⟨rfl, .empty id scope, .none id⟩

/-- What is done about the repository in the first world cannot be seen in the second. -/
theorem deed_of_own (apart : Apart id known owners world other) {deed : Deed}
    (own : deed ≠ .rest → deed.owner? = some id) (store : world'.store = deed.store world.store)
    (gates : world'.gates = deed.gates world.gates) (pageSize : world'.pageSize = world.pageSize) :
    Apart id known owners world' other := by
  refine ⟨apart.pageSize.trans pageSize.symm, ?_, ?_⟩
  · rw [store]
    by_cases idle : deed = .rest
    · rw [idle]
      exact apart.store
    · exact apart.store.deed_of_own (own idle)
  · rw [gates]
    cases deed with
    | forget name =>
      obtain rfl := Option.some.inj (own nofun)
      exact apart.gates.forget_of_own
    | _ => exact apart.gates

/-- What is done about another repository, or about none, is done in both worlds. -/
theorem deed (apart : Apart id known owners world other) (deed : Deed)
    (different : deed.owner? ≠ some id)
    (store : world'.store = deed.store world.store) (gates : world'.gates = deed.gates world.gates)
    (pageSize : world'.pageSize = world.pageSize)
    (store' : other'.store = deed.store other.store)
    (gates' : other'.gates = deed.gates other.gates) (pageSize' : other'.pageSize = other.pageSize) :
    Apart id known owners world' other' := by
  refine ⟨?_, ?_, ?_⟩
  · rw [pageSize', pageSize, apart.pageSize]
  · rw [store, store']
    exact apart.store.deed deed different
  · rw [gates, gates']
    cases deed with
    | forget name => exact apart.gates.forget name
    | _ => exact apart.gates

end World.Apart

end Session

end CommitHistory
