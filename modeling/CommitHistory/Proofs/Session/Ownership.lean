/-
# Whose tasks and turnstiles there are

A task works on behalf of the call that began it, and a turnstile was set up for a repository. In a
run of calls that work on the store, a fetch comes only to turnstiles of its repository, so whoever
stands in the queue of a turnstile began with a call about the repository of the turnstile.

## Main definitions

* `WorksFor` — an activity works on behalf of a call.
* `Session.setUp` — the repository for which a move sets a turnstile up.
* `Session.InOrder` — tasks work for their calls, and turnstiles belong to repositories.

## Main results

* `Session.InOrder.of_move` — every move keeps this order.
* `Session.InOrder.exists_call` — who stands in a queue.
-/

import CommitHistory.Proofs.Session.Apart

namespace CommitHistory.Session

variable {known : List Call} {owners : List RepositoryId} {call : Call} {activity after : Activity}
  {world world' : World} {task : Nat} {reply : Option Reply}

/-! ### Calls and activities -/

/-- An activity works on behalf of a call that works on the store. -/
inductive WorksFor : Call → Activity → Prop
  | fetch (repository : Repository) (stage : Fetch) :
      WorksFor (.fetch repository) (.fetch repository stage)
  | loadMore (repository : Repository) (stage : LoadMore) :
      WorksFor (.loadMore repository) (.loadMore repository stage)
  | ancestor (repository : Repository) (stage : Ancestor) :
      WorksFor (.ancestor repository) (.ancestor repository stage)
  | edit (change : Edit) : WorksFor (.edit change) (.edit change)
  | edited (change : Edit) : WorksFor (.edit change) .edited
  | remove (id : RepositoryId) : WorksFor (.remove id) (.remove (.start id))
  | forget (id : RepositoryId) (notices : List Notice) :
      WorksFor (.remove id) (.remove (.forgetGate id notices))
  | removed (id : RepositoryId) : WorksFor (.remove id) (.remove .done)

namespace WorksFor

theorem begin (ofStore : call.isOfStore = true) : WorksFor call call.begin := by
  cases call with
  | fetch repository => exact .fetch repository .lookup
  | loadMore repository => exact .loadMore repository .guard
  | ancestor repository => exact .ancestor repository .note
  | edit change => exact .edit change
  | remove id => exact .remove id
  | _ => cases ofStore

theorem of_advance (works : WorksFor call activity)
    (advanced : activity.advance task world reply = some (world', after)) :
    WorksFor call after := by
  cases works with
  | fetch repository stage =>
    obtain ⟨stage', -, rfl⟩ := exists_of_map_eq_some advanced
    exact .fetch repository stage'
  | loadMore repository stage =>
    obtain ⟨stage', -, rfl⟩ := exists_of_map_eq_some advanced
    exact .loadMore repository stage'
  | ancestor repository stage =>
    obtain ⟨stage', -, rfl⟩ := exists_of_map_eq_some advanced
    exact .ancestor repository stage'
  | edit change =>
    cases reply <;> cases advanced
    exact .edited change
  | remove id =>
    cases reply <;> cases advanced
    exact .forget id _
  | forget id notices =>
    cases reply <;> cases advanced
    exact .removed id
  | edited change => cases advanced
  | removed id => cases reply <;> cases advanced

/-- A fetch is one of the repository that the call is about. -/
theorem owner?_of_fetch? (works : WorksFor call activity) {repository : Repository} {stage : Fetch}
    (under : activity.fetch? = some (repository, stage)) : call.owner? = some repository.id := by
  cases works with
  | fetch other stage' =>
    cases stage' <;> cases under <;> rfl
  | loadMore other stage' =>
    cases stage' with
    | fetching fetch => cases fetch <;> cases under <;> rfl
    | _ => cases under
  | _ => cases under

/-- What is done outside fetches is about what the call is about. -/
theorem owner?_deed (works : WorksFor call activity) (busy : activity.deed world ≠ .rest) :
    (activity.deed world).owner? = call.owner? := by
  cases works with
  | loadMore repository stage =>
    cases stage with
    | guard =>
      rw [Activity.deed, LoadMore.deed] at busy ⊢
      split at busy
      next wants => rw [if_pos wants]; rfl
      next => exact absurd rfl busy
    | unmark _ => rfl
    | _ => exact absurd rfl busy
  | edit _ | remove _ | forget _ _ => rfl
  | _ => exact absurd rfl busy

end WorksFor

/-! ### Fetches and turnstiles -/

namespace Fetch

/-- The repository for which a step of a fetch sets a turnstile up. -/
def setUp (gates : Gates) (id : RepositoryId) : Fetch → List RepositoryId
  | .findGate => gates.setUp id
  | _ => []

/-- The turnstile of a fetch is one of its repository. -/
def IsHome (owners : List RepositoryId) (id : RepositoryId) (stage : Fetch) : Prop :=
  ∀ gate, stage.gate? = some gate → owners[gate]? = some id

variable {repository : Repository} {stage stage' : Fetch} {id : RepositoryId}

theorem IsHome.append (home : stage.IsHome owners id) (more : List RepositoryId) :
    stage.IsHome (owners ++ more) id :=
  fun gate coming => getElem?_append_of_some (home gate coming) more

theorem gate?_of_inside? {gate : Nat} (inside : stage.inside? = some gate) :
    stage.gate? = some gate := by
  cases stage <;> first | exact inside | cases inside

theorem gate?_of_queued? {gate : Nat} (queued : stage.queued? = some gate) :
    stage.gate? = some gate := by
  cases stage <;> first | exact queued | cases queued

theorem setUp_of_ne (other : stage ≠ .findGate) (gates : Gates) (id : RepositoryId) :
    stage.setUp gates id = [] := by
  cases stage <;> first | rfl | exact absurd rfl other

theorem Steps.gates_owned (steps : Steps task repository world stage reply world' stage')
    (owned : world.gates.Owned owners) :
    world'.gates.Owned (owners ++ stage.setUp world.gates repository.id) := by
  -- Only a search sets up a turnstile, or changes which of them are in use.
  have same {gates : Gates} (length : gates.turnstiles.length = world.gates.turnstiles.length)
      (current : gates.current = world.gates.current) : gates.Owned owners :=
    ⟨length.trans owned.length, current ▸ owned.current⟩
  by_cases search : stage = .findGate
  · subst search
    cases steps with
    | find => exact owned.find repository.id
    | leave inside _ _ => cases inside
  rw [setUp_of_ne search, List.append_nil]
  cases steps with
  | find => exact absurd rfl search
  | _ => exact same (by simp [finish, store, World.publish]) rfl

theorem Steps.isHome (steps : Steps task repository world stage reply world' stage')
    (owned : world.gates.Owned owners) (home : stage.IsHome owners repository.id) :
    stage'.IsHome (owners ++ stage.setUp world.gates repository.id) repository.id := by
  intro gate coming
  cases steps with
  | find =>
    cases coming
    exact owned.getElem?_find repository.id
  | enter _ | queue | pass _ | recheck _ | note | ask _ | miss | answer _ =>
    cases coming
    exact getElem?_append_of_some (home _ rfl) _
  | _ => cases coming

end Fetch

/-! ### Sessions in order -/

variable {session next : Session} {move : Move}

/-- The repository for which a move sets a turnstile up. -/
def setUp (session : Session) (move : Move) : List RepositoryId :=
  ((session.moved? move).map fun fetch => fetch.2.setUp session.world.gates fetch.1.id).getD []

variable {repository : Repository} {stage : Fetch}

theorem setUp_of_fetch (under : session.fetchOf? task = some (repository, stage)) :
    session.setUp (.advance task reply) = stage.setUp session.world.gates repository.id := by
  rw [setUp, moved?, under]
  rfl

theorem setUp_of_nothing (nothing : session.moved? move = none) : session.setUp move = [] := by
  rw [setUp, nothing]
  rfl

/-- The turnstiles were set up for these repositories, and fetches come to their own ones. -/
structure Owned (owners : List RepositoryId) (session : Session) : Prop where
  gates : session.world.gates.Owned owners
  home : ∀ task repository stage, session.fetchOf? task = some (repository, stage) →
    stage.IsHome owners repository.id

theorem Owned.of_move (owned : session.Owned owners) (moved : session.move move = some next) :
    next.Owned (owners ++ session.setUp move) := by
  cases Shift.of_move moved with
  | deed nothing fetches _ gates _ =>
    rw [setUp_of_nothing nothing, List.append_nil]
    refine ⟨?_, fun task repository stage under => ?_⟩
    · rw [gates]
      cases session.deedOf move with
      | forget id =>
        refine ⟨owned.gates.length, fun name gate held => ?_⟩
        rw [Deed.gates, Gates.forget, Table.get?_erase] at held
        split at held
        next => cases held
        next => exact owned.gates.current name gate held
      | _ => exact owned.gates
    · obtain stayed | ⟨-, other, began⟩ := fetches task
      · exact owned.home task repository stage (stayed ▸ under)
      · -- A fetch that has just begun is not on its way to a turnstile.
        obtain ⟨rfl, rfl⟩ := Prod.mk.inj (Option.some.inj (began.symm.trans under))
        rintro _ ⟨⟩
  | @fetch task reply repository stage stage' _ _ under advanced world mine others =>
    subst world
    have steps := Fetch.Steps.of_advance advanced
    rw [setUp_of_fetch under]
    refine ⟨steps.gates_owned owned.gates, fun other repository' stage'' under' => ?_⟩
    by_cases same : other = task
    · subst same
      rw [mine] at under'
      cases stage' <;> cases under' <;>
        exact steps.isHome owned.gates (owned.home other repository stage under)
    · rw [others other same] at under'
      exact (owned.home other repository' stage'' under').append _

/-- Every task works on behalf of its call. -/
structure Working (known : List Call) (session : Session) : Prop where
  length : session.activities.length = known.length
  works : ∀ (task : Nat) (call : Call) (activity : Activity), known[task]? = some call →
    session.activities[task]? = some activity → WorksFor call activity

theorem Working.of_move (working : session.Working known) (moved : session.move move = some next)
    (ofStore : ∀ call, move = .start call → call.isOfStore = true) :
    next.Working (known ++ move.call?.toList) := by
  cases Turn.of_move moved with
  | start call =>
    refine ⟨by simp [start, Move.call?, working.length], fun task other activity held does => ?_⟩
    rw [Move.call?, Option.toList_some, List.getElem?_append] at held
    rw [start, List.getElem?_append, working.length] at does
    split at held
    next inside =>
      rw [if_pos inside] at does
      exact working.works task other activity held does
    next beyond =>
      rw [if_neg beyond] at does
      obtain rfl := List.mem_singleton.mp (List.mem_of_getElem? held)
      obtain rfl := List.mem_singleton.mp (List.mem_of_getElem? does)
      exact .begin (ofStore _ rfl)
  | @advance mover reply before after world was stepped =>
    rw [Move.call?, Option.toList_none, List.append_nil]
    refine ⟨by simp [working.length], fun task call activity held does => ?_⟩
    rw [List.getElem?_set] at does
    split at does
    next same =>
      subst same
      split at does
      next =>
        obtain rfl := Option.some.inj does
        exact (working.works _ call before held was).of_advance stepped
      next => cases does
    next => exact working.works task call activity held does

/-- Queues are in order, turnstiles belong to repositories, and tasks work for their calls. -/
structure InOrder (known : List Call) (owners : List RepositoryId) (session : Session) : Prop where
  queued : session.Queued
  owned : session.Owned owners
  working : session.Working known

namespace InOrder

theorem new (pageSize : Nat) (scope : Scope) : (new pageSize scope).InOrder [] [] where
  queued := .new pageSize scope
  owned := by
    refine ⟨⟨rfl, nofun⟩, fun task repository stage under => ?_⟩
    rw [fetchOf?_new] at under
    cases under
  working := ⟨rfl, fun _ _ _ held => nomatch held⟩

theorem of_move (inOrder : session.InOrder known owners) (moved : session.move move = some next)
    (ofStore : ∀ call, move = .start call → call.isOfStore = true) :
    next.InOrder (known ++ move.call?.toList) (owners ++ session.setUp move) where
  queued := inOrder.queued.of_move moved
  owned := inOrder.owned.of_move moved
  working := inOrder.working.of_move moved ofStore

variable (inOrder : session.InOrder known owners)

include inOrder

/-- A task with an activity has a call. -/
theorem exists_call_of_activity {task : Nat} {activity : Activity}
    (held : session.activities[task]? = some activity) :
    ∃ call, known[task]? = some call ∧ WorksFor call activity := by
  obtain ⟨inside, -⟩ := List.getElem?_eq_some_iff.mp held
  rw [inOrder.working.length] at inside
  exact ⟨_, List.getElem?_eq_getElem inside, inOrder.working.works task _ activity
    (List.getElem?_eq_getElem inside) held⟩

theorem owner?_of_fetchOf? {task : Nat} {repository : Repository} {stage : Fetch}
    (under : session.fetchOf? task = some (repository, stage)) :
    ∃ call, known[task]? = some call ∧ call.owner? = some repository.id := by
  obtain ⟨activity, held, fetch⟩ := Option.bind_eq_some_iff.mp under
  obtain ⟨call, began, works⟩ := inOrder.exists_call_of_activity held
  exact ⟨call, began, works.owner?_of_fetch? fetch⟩

/-- Whoever stands in the queue of a turnstile began with a call about its repository. -/
theorem exists_call {gate task : Nat} (here : task ∈ session.world.gates.queue gate) :
    ∃ call name, known[task]? = some call ∧ call.owner? = some name ∧
      owners[gate]? = some name := by
  rw [inOrder.queued.mem_iff] at here
  obtain ⟨⟨repository, stage⟩, under, queued⟩ := Option.bind_eq_some_iff.mp here
  obtain ⟨call, began, owner⟩ := inOrder.owner?_of_fetchOf? under
  refine ⟨call, repository.id, began, owner, ?_⟩
  exact inOrder.owned.home task repository stage under gate (Fetch.gate?_of_queued? queued)

end InOrder

end CommitHistory.Session
