/-
# One request at a time

Two requests for pages of one repository must not both be stored. The turnstile that the
repository uses keeps them apart, as long as every fetch that may still store a page is at
that turnstile. Only a removal can break this: it forgets the turnstile, and fetches that
came to it before go on there, while others come to a new one. A run is tidy if no such
fetch lingers when the turnstile is forgotten. In tidy runs at most one request is in
flight, and a page is appended to what is stored at that moment.

## Main definitions

* `Fetch.MayStore` — a fetch at a turnstile may still store a page.
* `Session.Orderly` — all such fetches are at the turnstile in use.
* `Session.Tidy` — no such fetch lingers at a turnstile that is forgotten.
* `Session.SingleFlight` — at most one request could still be stored.

## Main results

* `Session.Orderly.of_move` — only a turnstile that is forgotten too early breaks the order.
* `Session.Guarded.of_play` — in tidy runs whatever may be stored notes what is stored.
-/

import CommitHistory.Proofs.Session.Queue

namespace CommitHistory.Session

/-! ### Fetches that may still store a page -/

/-- A ticket can still be valid: nothing was dropped since it was taken, and if the scope is another
one now, it can be changed back without dropping anything. -/
def Ticket.Live (ticket : Ticket) (store : Store) (id : RepositoryId) : Prop :=
  store.generation id = ticket.generation ∧
    (store.scope = ticket.scope ∨ store.basis? id = none)

/-- A fetch has come to a turnstile and may still store a page. -/
def Fetch.MayStore (store : Store) (id : RepositoryId) : Fetch → Prop
  | .enter _ | .waiting _ | .recheck _ | .note _ => True
  | .askLineage _ ticket | .askPage _ ticket _ | .keep _ ticket _ _ => ticket.Live store id
  | .lookup | .findGate | .drop _ _ | .done _ => False

/-- The fetch of a task may still store a page of a repository. -/
def Lingers (id : RepositoryId) (session : Session) (task : Nat) : Prop :=
  ∃ repository stage, session.fetchOf? task = some (repository, stage) ∧ repository.id = id ∧
    stage.MayStore session.world.store id

/-- Every fetch that may still store a page is at the turnstile that the repository uses. -/
def Orderly (id : RepositoryId) (session : Session) : Prop :=
  ∀ task repository stage, session.fetchOf? task = some (repository, stage) →
    repository.id = id → stage.MayStore session.world.store id →
    session.world.gates.current.get? id = stage.gate?

/-- Every fetch that may still store a page has noted what is stored, if it has noted anything. -/
def Fresh (id : RepositoryId) (session : Session) : Prop :=
  ∀ task repository stage ticket, session.fetchOf? task = some (repository, stage) →
    repository.id = id → stage.MayStore session.world.store id → stage.ticket? = some ticket →
    ticket.basis = session.world.store.basis? id

/-- A task has asked for a page that could be stored now, or brings it. -/
def Flies (id : RepositoryId) (session : Session) (task : Nat) : Prop :=
  ∃ repository gate ticket lineage stage, session.fetchOf? task = some (repository, stage) ∧
    repository.id = id ∧ ticket.isValid session.world.store id = true ∧
    (stage = .askPage gate ticket lineage ∨ ∃ page, stage = .keep gate ticket lineage page)

/-- At most one request for a page of a repository could be stored now. -/
def SingleFlight (id : RepositoryId) (session : Session) : Prop :=
  ∀ first second, session.Flies id first → session.Flies id second → first = second

theorem Ticket.live_of_isValid {ticket : Ticket} {store : Store} {id : RepositoryId}
    (valid : ticket.isValid store id = true) : ticket.Live store id := by
  rw [isValid, Bool.and_eq_true, decide_eq_true_eq, decide_eq_true_eq] at valid
  exact ⟨valid.1, Or.inl valid.2⟩

variable {session next final middle : Session} {move : Move} {moves : List Move} {id : RepositoryId}

/-- What has become unable to store a page remains so. -/
theorem Ticket.Live.of_move {ticket : Ticket} (moved : session.move move = some next)
    (live : ticket.Live next.world.store id)
    (noted : ticket.generation ≤ session.world.store.generation id) :
    ticket.Live session.world.store id := by
  obtain ⟨count, scope⟩ := live
  cases Fate.of_move id moved with
  | kept _ _ _ _ basis generation same =>
    -- Rows are stored now, so the scope is already that of the ticket.
    refine ⟨generation ▸ count, Or.inl ?_⟩
    obtain scope | none := scope
    · exact same ▸ scope
    · rw [none] at basis
      cases basis
  | dropped drops =>
    -- The ticket would count a drop that was still to come.
    have more := drops.generation
    omega
  | spared keeps =>
    refine ⟨keeps.generation ▸ count, ?_⟩
    obtain scope | none := scope
    · exact keeps.scope.imp_left fun same => same.symm.trans scope
    · exact Or.inr (keeps.basis ▸ none)

namespace Fetch

theorem MayStore.of_move {stage : Fetch} (moved : session.move move = some next)
    (may : stage.MayStore next.world.store id)
    (noted : ∀ ticket, stage.ticket? = some ticket →
      ticket.generation ≤ session.world.store.generation id) :
    stage.MayStore session.world.store id := by
  cases stage with
  | askLineage _ ticket | askPage _ ticket _ | keep _ ticket _ _ =>
    exact Ticket.Live.of_move moved may (noted ticket rfl)
  | _ => exact may

/-- A fetch that may store a page after a step could before, or has come to the turnstile that is
found for its repository. -/
theorem Steps.mayStore {task : Nat} {repository : Repository} {world world' : World}
    {stage stage' : Fetch} {reply : Option Reply}
    (steps : Steps task repository world stage reply world' stage')
    (may : stage'.MayStore world'.store id) :
    stage.MayStore world.store id ∧ stage'.gate? = stage.gate? ∨
      stage' = .enter (world.gates.find repository.id).2 ∧
        world'.gates = (world.gates.find repository.id).1 := by
  cases steps with
  | find => exact Or.inr ⟨rfl, rfl⟩
  | enter _ | queue | pass _ | recheck _ | note => exact Or.inl ⟨trivial, rfl⟩
  | ask _ | answer _ => exact Or.inl ⟨may, rfl⟩
  | _ => cases may

/-- Whoever may store a page stands at a turnstile. -/
theorem MayStore.exists_gate {store : Session.Store} {stage : Fetch}
    (may : stage.MayStore store id) : ∃ gate, stage.gate? = some gate := by
  cases stage with
  | lookup | findGate | drop _ _ | done _ => cases may
  | enter gate | waiting gate | recheck gate | note gate | askLineage gate _ | askPage gate _ _
  | keep gate _ _ _ => exact ⟨gate, rfl⟩

/-- A fetch with a ticket is inside the turnstile at which it stands. -/
theorem inside?_of_ticket {stage : Fetch} {ticket : Ticket} (held : stage.ticket? = some ticket) :
    stage.inside? = stage.gate? := by
  cases stage <;> first | rfl | cases held

end Fetch

/-! ### The turnstile in use -/

theorem Gates.find_of_current {gates : Gates} {gate : Nat}
    (held : gates.current.get? id = some gate) : gates.find id = (gates, gate) := by
  rw [find, held]

/-- A repository keeps its turnstile until it is forgotten. -/
theorem current_of_move (moved : session.move move = some next)
    (remembered : session.deedOf move ≠ .forget id) {gate : Nat}
    (held : session.world.gates.current.get? id = some gate) :
    next.world.gates.current.get? id = some gate := by
  cases Shift.of_move moved with
  | deed _ _ _ gates _ =>
    rw [gates]
    cases deed : session.deedOf move with
    | forget other =>
      have different : id ≠ other := fun same => remembered (deed.trans (same ▸ rfl))
      rw [Deed.gates, Gates.forget, Table.get?_erase, if_neg different]
      exact held
    | _ => exact held
  | @fetch task _ repository _ _ _ _ under advanced world mine others =>
    subst world
    cases (Fetch.Steps.of_advance advanced).passage with
    | stay same => exact same ▸ held
    | find _ found =>
      rw [found, Gates.get?_current_find]
      split
      next same => rw [← same, Gates.find_of_current held]
      next => exact held
    | enter _ entered => exact entered ▸ held
    | leave _ left => exact left ▸ held

/-- Only a turnstile that is forgotten while a fetch lingers breaks the order. -/
theorem Orderly.of_move (orderly : session.Orderly id) (counted : session.Counted)
    (moved : session.move move = some next)
    (tidy : session.deedOf move = .forget id → ∀ task, ¬ session.Lingers id task) :
    next.Orderly id := by
  intro task repository stage under same may
  -- A fetch that could store a page before is at a turnstile that stays in use.
  have stays {before : Fetch} (was : session.fetchOf? task = some (repository, before))
      (could : before.MayStore session.world.store id) :
      next.world.gates.current.get? id = before.gate? := by
    have remembered : session.deedOf move ≠ .forget id := fun forgotten =>
      tidy forgotten task ⟨repository, before, was, same, could⟩
    obtain ⟨gate, here⟩ := could.exists_gate
    have current := orderly task repository before was same could
    rw [here] at current ⊢
    exact current_of_move moved remembered current
  obtain ⟨stayed, -⟩ | rfl | ⟨reply, before, -, was, steps⟩ := fetch_of_move moved under
  · exact stays stayed (may.of_move moved fun ticket held =>
      same ▸ counted task repository stage ticket stayed held)
  · cases may
  · obtain ⟨could, gate⟩ | ⟨rfl, gates⟩ := steps.mayStore may
    · exact gate ▸ stays was could
    · rw [gates, same, Gates.get?_current_find, if_pos rfl]
      rfl

/-- Two fetches that may store a page and have noted something are the same. -/
theorem Orderly.eq_of_tickets (orderly : session.Orderly id) (queued : session.Queued)
    {first second : Nat} {one other : Repository} {stage stage' : Fetch} {ticket ticket' : Ticket}
    (under : session.fetchOf? first = some (one, stage)) (same : one.id = id)
    (may : stage.MayStore session.world.store id) (held : stage.ticket? = some ticket)
    (under' : session.fetchOf? second = some (other, stage')) (same' : other.id = id)
    (may' : stage'.MayStore session.world.store id) (held' : stage'.ticket? = some ticket') :
    first = second := by
  obtain ⟨gate, here⟩ := may.exists_gate
  have current := orderly first one stage under same may
  have current' := orderly second other stage' under' same' may'
  -- Both are inside the turnstile in use.
  have inside : session.insideOf? first = some gate := by
    rw [insideOf?, under, Option.bind_some, Fetch.inside?_of_ticket held, here]
  have inside' : session.insideOf? second = some gate := by
    rw [insideOf?, under', Option.bind_some, Fetch.inside?_of_ticket held', ← current', current,
      here]
  exact queued.eq_of_inside inside inside'

/-- In an orderly session at most one request is in flight. -/
theorem Orderly.singleFlight (orderly : session.Orderly id) (queued : session.Queued) :
    session.SingleFlight id := by
  rintro first second ⟨one, _, _, _, stage, under, same, valid, asked⟩
    ⟨other, _, _, _, stage', under', same', valid', asked'⟩
  have live := Ticket.live_of_isValid valid
  have live' := Ticket.live_of_isValid valid'
  obtain rfl | ⟨_, rfl⟩ := asked <;> obtain rfl | ⟨_, rfl⟩ := asked' <;>
    exact orderly.eq_of_tickets queued under same live rfl under' same' live' rfl

/-- In an orderly session no page is stored behind the back of a fetch that may store one. -/
theorem Fresh.of_move (fresh : session.Fresh id) (orderly : session.Orderly id)
    (queued : session.Queued) (counted : session.Counted)
    (moved : session.move move = some next) : next.Fresh id := by
  intro task repository stage ticket under same may held
  obtain ⟨stayed, idle⟩ | rfl | ⟨reply, before, -, was, steps⟩ := fetch_of_move moved under
  · -- The fetch has not moved, so what counts is what another one did to the store.
    have could := may.of_move moved fun ticket held =>
      same ▸ counted task repository stage ticket stayed held
    have noted := fresh task repository stage ticket stayed same could held
    cases Fate.of_move id moved with
    | kept mover under' same' valid =>
      -- The fetch that stores a page would have to be this one.
      obtain rfl := orderly.eq_of_tickets queued under' same' (Ticket.live_of_isValid valid) rfl
        stayed same could held
      exact absurd mover (idle _)
    | dropped drops =>
      have live : next.world.store.generation id = ticket.generation := by
        cases stage with
        | askLineage _ _ | askPage _ _ _ | keep _ _ _ _ =>
          cases held
          exact may.1
        | drop _ _ => cases may
        | _ => cases held
      have low := counted task repository stage ticket stayed held
      have more := drops.generation
      subst same
      omega
    | spared keeps => rw [keeps.basis, noted]
  · cases held
  · obtain ⟨world, old | rfl⟩ := steps.ticket held
    · obtain ⟨could, -⟩ | ⟨rfl, -⟩ := steps.mayStore may
      · rw [world]
        exact fresh task repository before ticket was same could old
      · cases held
    · rw [world, ← same]
      rfl

/-! ### Tidy runs -/

/-- What holds of every move of a run, in the session in which it is made. -/
def Throughout (holds : Session → Move → Prop) (session : Session) : List Move → Prop
  | [] => True
  | move :: rest =>
    holds session move ∧ ∀ next, session.move move = some next → next.Throughout holds rest

theorem throughout_append {holds : Session → Move → Prop}
    (played : session.play moves = some middle) {later : List Move} :
    session.Throughout holds (moves ++ later) ↔
      session.Throughout holds moves ∧ middle.Throughout holds later := by
  induction moves generalizing session with
  | nil =>
    obtain rfl := Option.some.inj played
    simp [Throughout]
  | cons move rest ih =>
    obtain ⟨second, moved, played⟩ := Option.bind_eq_some_iff.mp played
    have only (next : Session) : session.move move = some next ↔ next = second := by
      rw [moved, Option.some.injEq, eq_comm]
    simp only [List.cons_append, Throughout, only, forall_eq, ih played, and_assoc]

theorem throughout_concat {holds : Session → Move → Prop}
    (played : session.play moves = some middle) :
    session.Throughout holds (moves ++ [move]) ↔
      session.Throughout holds moves ∧ holds middle move := by
  rw [throughout_append played]
  simp [Throughout]

/-- No fetch that may still store a page lingers when the turnstile of the repository is
forgotten. -/
def Tidy (id : RepositoryId) : Session → List Move → Prop :=
  Throughout fun session move =>
    session.deedOf move = .forget id → ∀ task, ¬ session.Lingers id task

/-- A run in which nobody asks for the removal of a repository is tidy, for its turnstile is never
forgotten. -/
theorem tidy_of_kept {pageSize : Nat} {scope : Scope}
    (played : (new pageSize scope).play moves = some session)
    (kept : .start (.remove id) ∉ moves) : (new pageSize scope).Tidy id moves := by
  refine play_induction (fun moves _ => Move.start (.remove id) ∉ moves →
    (new pageSize scope).Tidy id moves) (fun _ => trivial)
    (fun moves middle move next before tidy moved kept => ?_) played kept
  rw [List.mem_append, not_or] at kept
  refine (throughout_concat before).mpr ⟨tidy kept.1, fun forgotten => ?_⟩
  have spared := (Sparing.of_play before kept.1).removes?_deedOf move
  rw [forgotten] at spared
  exact absurd rfl spared

/-- All that keeps the requests for a repository apart. -/
structure Guarded (id : RepositoryId) (session : Session) : Prop where
  counted : session.Counted
  queued : session.Queued
  orderly : session.Orderly id
  fresh : session.Fresh id

theorem Guarded.of_move (guarded : session.Guarded id) (moved : session.move move = some next)
    (tidy : session.deedOf move = .forget id → ∀ task, ¬ session.Lingers id task) :
    next.Guarded id where
  counted := guarded.counted.of_move moved
  queued := guarded.queued.of_move moved
  orderly := guarded.orderly.of_move guarded.counted moved tidy
  fresh := guarded.fresh.of_move guarded.orderly guarded.queued guarded.counted moved

theorem Guarded.new (id : RepositoryId) (pageSize : Nat) (scope : Scope) :
    (new pageSize scope).Guarded id where
  counted task _ _ _ under := by rw [fetchOf?_new] at under; cases under
  queued := .new pageSize scope
  orderly task _ _ under := by rw [fetchOf?_new] at under; cases under
  fresh task _ _ _ under := by rw [fetchOf?_new] at under; cases under

/-- A tidy run keeps the requests apart. -/
theorem Guarded.of_play (guarded : session.Guarded id) (played : session.play moves = some final)
    (tidy : session.Tidy id moves) : final.Guarded id := by
  refine play_induction (fun moves final => session.Tidy id moves → final.Guarded id)
    (fun _ => guarded) (fun moves middle move next before keep moved tidy => ?_) played tidy
  obtain ⟨earlier, last⟩ := (throughout_concat before).mp tidy
  exact (keep earlier).of_move moved last

/-- In a guarded session a page that could be stored belongs to the ticket that would be taken
now. -/
theorem Guarded.eq_take (guarded : session.Guarded id) {task gate : Nat} {repository : Repository}
    {ticket : Ticket} {lineage : Lineage} {page : List Commit}
    (under : session.fetchOf? task = some (repository, .keep gate ticket lineage page))
    (same : repository.id = id) (valid : ticket.isValid session.world.store id = true) :
    ticket = .take session.world.store id := by
  have basis := guarded.fresh task repository _ ticket under same (Ticket.live_of_isValid valid) rfl
  rw [Ticket.isValid, Bool.and_eq_true, decide_eq_true_eq, decide_eq_true_eq] at valid
  obtain ⟨generation, scope⟩ := valid
  cases ticket
  simp_all [Ticket.take, Store.basis?]

end CommitHistory.Session
