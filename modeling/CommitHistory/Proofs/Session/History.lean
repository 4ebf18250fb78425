/-
# The history of a run

A run of a session is a list of moves. Its history is the list of the events of its moves,
in their order. Whatever a move is, it does one of three things to the rows of a
repository: it keeps a page that a fetch has asked for, it drops the rows and says so in
the history, or it leaves them alone.

## Main definitions

* `Session.events`, `Session.history` — the events of a move and of a run.
* `Session.Fate` — the three things that a move can do to the rows of a repository.

## Main results

* `Session.play_induction` — what holds at the start and is kept by moves holds of all runs.
* `Session.Fate.of_move` — every move does one of the three things to every repository.
* `Session.generation_le_of_play` — the rows of a repository are dropped ever more often.
* `Session.fetch_of_move` — where the fetches after a move come from.
-/

import CommitHistory.Proofs.Session.Store
import Mathlib.Data.List.Induction

namespace CommitHistory.Session

variable {session next final : Session} {move : Move} {moves : List Move}

/-! ### Runs -/

theorem play_append (session : Session) (first second : List Move) :
    session.play (first ++ second) = (session.play first).bind fun middle => middle.play second :=
  List.foldlM_append

theorem play_singleton (session : Session) (move : Move) :
    session.play [move] = session.move move := by
  simp [play]

theorem play_append_of_play {middle : Session} {first : List Move}
    (played : session.play first = some middle) (second : List Move) :
    session.play (first ++ second) = middle.play second := by
  rw [play_append, played, Option.bind_some]

theorem play_concat_of_move {middle : Session} (played : session.play moves = some middle)
    (moved : middle.move move = some next) : session.play (moves ++ [move]) = some next := by
  rw [play_append_of_play played, play_singleton, moved]

/-- The last move of a run comes after a shorter run. -/
theorem exists_of_play_concat (played : session.play (moves ++ [move]) = some next) :
    ∃ middle, session.play moves = some middle ∧ middle.move move = some next := by
  rw [play_append] at played
  obtain ⟨middle, before, after⟩ := Option.bind_eq_some_iff.mp played
  exact ⟨middle, before, play_singleton middle move ▸ after⟩

/-- Whatever holds at the start of runs and is kept by every move holds at the end of every run. -/
theorem play_induction (holds : List Move → Session → Prop) (start : holds [] session)
    (step : ∀ moves middle move next, session.play moves = some middle → holds moves middle →
      middle.move move = some next → holds (moves ++ [move]) next)
    (played : session.play moves = some final) : holds moves final := by
  -- A run grows at its end, so the last move is taken off.
  induction moves using List.reverseRecOn generalizing final with
  | nil =>
    obtain rfl := Option.some.inj played
    exact start
  | append_singleton moves move ih =>
    obtain ⟨middle, before, moved⟩ := exists_of_play_concat played
    exact step moves middle move final before (ih before) moved

/-! ### Events -/

/-- The events of a move. -/
def events (session : Session) : Move → List Event
  | .start _ => []
  | .advance task reply =>
    match session.fetchOf? task with
    | some (repository, stage) => stage.events task repository session.world reply
    | none => ((session.deedOf (.advance task reply)).drops session.world.store).map .dropped

/-- The events of a run, up to the first move that is not possible. -/
def history (session : Session) : List Move → List Event
  | [] => []
  | move :: rest =>
    session.events move ++
      match session.move move with
      | some next => next.history rest
      | none => []

theorem history_append (played : session.play moves = some next) (later : List Move) :
    session.history (moves ++ later) = session.history moves ++ next.history later := by
  induction moves generalizing session with
  | nil =>
    obtain rfl := Option.some.inj played
    rfl
  | cons move rest ih =>
    obtain ⟨middle, moved, played⟩ := Option.bind_eq_some_iff.mp played
    simp only [List.cons_append, history, moved, ih played, List.append_assoc]

theorem history_concat (played : session.play moves = some next) (move : Move) :
    session.history (moves ++ [move]) = session.history moves ++ next.events move := by
  rw [history_append played, history]
  cases next.move move <;> simp [history]

theorem events_of_nothing (nothing : session.moved? move = none) :
    session.events move = ((session.deedOf move).drops session.world.store).map .dropped := by
  cases move with
  | start call => rfl
  | advance task reply =>
    have nothing : session.fetchOf? task = none := nothing
    rw [events, nothing]

theorem events_of_fetch {task : Nat} {reply : Option Reply} {repository : Repository}
    {stage : Fetch} (under : session.fetchOf? task = some (repository, stage)) :
    session.events (.advance task reply) = stage.events task repository session.world reply := by
  rw [events, under]

/-- The rows of a repository are dropped when they are cleared, when the repository is removed, when
the scope changes while there are any, and by a fetch that has found no lineage. -/
theorem dropped_mem_events_iff {id : RepositoryId} {task : Nat} {reply : Option Reply} :
    .dropped id ∈ session.events (.advance task reply) ↔
      (session.fetchOf? task = none ∧
        (session.deedOf (.advance task reply) = .edit (.clear id) ∨
          session.deedOf (.advance task reply) = .remove id ∨
          ∃ scope, session.deedOf (.advance task reply) = .edit (.setScope scope) ∧
            session.world.store.scope ≠ scope ∧ id ∈ session.world.store.cached.keys)) ∨
      ∃ repository gate ticket, session.fetchOf? task = some (repository, .drop gate ticket) ∧
        reply = none ∧ repository.id = id ∧
        session.world.store.generation id = ticket.generation := by
  cases under : session.fetchOf? task with
  | none =>
    rw [events, under]
    generalize session.deedOf (.advance task reply) = deed
    cases deed with
    | edit change => cases change <;> simp [Deed.drops, eq_comm]
    | _ => simp [Deed.drops, eq_comm]
  | some held =>
    obtain ⟨repository, stage⟩ := held
    rw [events_of_fetch under, Fetch.dropped_mem_events_iff]
    constructor
    · rintro ⟨gate, ticket, rfl, without, same, current⟩
      exact Or.inr ⟨repository, gate, ticket, rfl, without, same, current⟩
    · rintro (⟨idle, -⟩ | ⟨_, gate, ticket, here, without, same, current⟩)
      · cases idle
      · cases here
        exact ⟨gate, ticket, rfl, without, same, current⟩

/-- An event that is no drop is one of a fetch. -/
theorem exists_fetch_of_mem_events {event : Event} (put : event ∈ session.events move)
    (other : ∀ id, event ≠ .dropped id) :
    ∃ task reply repository stage, move = .advance task reply ∧
      session.fetchOf? task = some (repository, stage) ∧
      Fetch.Occurs task repository session.world stage reply event := by
  cases under : session.moved? move with
  | none =>
    rw [events_of_nothing under] at put
    obtain ⟨id, -, same⟩ := List.mem_map.mp put
    exact absurd same.symm (other id)
  | some held =>
    obtain ⟨repository, stage⟩ := held
    cases move with
    | start _ => cases under
    | advance task reply =>
      have under : session.fetchOf? task = some (repository, stage) := under
      rw [events_of_fetch under] at put
      exact ⟨task, reply, repository, stage, rfl, under, Fetch.mem_events_iff.mp put⟩

/-! ### What a fetch does to the rows of a repository -/

theorem Fetch.basis?_store (world : World) (id other : RepositoryId) (lineage : Lineage)
    (graph : Graph) (appended : Nat) :
    (Fetch.store world id lineage graph appended).store.basis? other =
      if other = id then some (lineage, graph) else world.store.basis? other := by
  simp only [Fetch.store, World.publish, Store.basis?, Table.get?_put]
  split <;> rfl

theorem Fetch.keeps_store {world : World} {id other : RepositoryId} (different : other ≠ id)
    (lineage : Lineage) (graph : Graph) (appended : Nat) :
    Store.Keeps other world.store (Fetch.store world id lineage graph appended).store :=
  ⟨by rw [basis?_store, if_neg different], rfl, Or.inl rfl⟩

/-- A step of a fetch stores a page, or drops rows or leaves them alone as its events say. -/
theorem Fetch.Steps.fate {task : Nat} {repository : Repository} {world world' : World}
    {stage stage' : Fetch} {reply : Option Reply}
    (steps : Fetch.Steps task repository world stage reply world' stage') (id : RepositoryId) :
    (∃ gate ticket lineage page, stage = .keep gate ticket lineage page ∧ repository.id = id ∧
      ticket.isValid world.store id = true ∧
      world'.store.basis? id = some (lineage, ticket.grown lineage page) ∧
      world'.store.generation id = world.store.generation id ∧
      world'.store.scope = world.store.scope ∧
      stage.events task repository world reply =
        [.kept (ticket.request task id world.pageSize lineage) page]) ∨
    .dropped id ∈ stage.events task repository world reply ∧
      Store.Drops id world.store world'.store ∨
    .dropped id ∉ stage.events task repository world reply ∧
      Store.Keeps id world.store world'.store := by
  cases steps with
  | drop current =>
    right
    simp only [events, current, if_true, List.mem_singleton, Event.dropped.injEq]
    simpa using Deed.invalidate_drops_or_keeps world.store id repository.id
  | @keep gate ticket lineage page valid =>
    by_cases same : repository.id = id
    · subst same
      refine Or.inl ⟨gate, ticket, lineage, page, rfl, rfl, valid, ?_, rfl, rfl, if_pos valid⟩
      exact (basis?_store world _ _ lineage (ticket.grown lineage page) page.length).trans
        (if_pos rfl)
    · refine Or.inr (Or.inr ⟨by simp [events, valid], ?_⟩)
      exact keeps_store (Ne.symm same) lineage (ticket.grown lineage page) page.length
  | leave inside silent result =>
    exact Or.inr (Or.inr ⟨silent ▸ List.not_mem_nil, .refl world.store id⟩)
  | _ => exact Or.inr (Or.inr ⟨by simp [events], .refl world.store id⟩)

/-! ### What a move does to the rows of a repository -/

/-- What a move does to the rows of a repository. -/
inductive Fate (id : RepositoryId) (session : Session) (move : Move) (next : Session) : Prop
  /-- A fetch stores a page. -/
  | kept {task gate : Nat} {repository : Repository} {ticket : Ticket} {lineage : Lineage}
      {page : List Commit} {reply : Option Reply} (mover : move = .advance task reply)
      (under : session.fetchOf? task = some (repository, .keep gate ticket lineage page))
      (same : repository.id = id) (valid : ticket.isValid session.world.store id = true)
      (basis : next.world.store.basis? id = some (lineage, ticket.grown lineage page))
      (generation : next.world.store.generation id = session.world.store.generation id)
      (scope : next.world.store.scope = session.world.store.scope)
      (events : session.events move =
        [.kept (ticket.request task id session.world.pageSize lineage) page])
  | dropped (drops : Store.Drops id session.world.store next.world.store)
      (event : .dropped id ∈ session.events move)
  | spared (keeps : Store.Keeps id session.world.store next.world.store)
      (event : .dropped id ∉ session.events move)

/-- Every move does one of the three things to the rows of every repository. -/
theorem Fate.of_move (id : RepositoryId) (moved : session.move move = some next) :
    Fate id session move next := by
  cases Shift.of_move moved with
  | deed nothing fetches store gates pageSize =>
    have events := events_of_nothing nothing
    obtain ⟨member, drops⟩ | ⟨other, keeps⟩ :=
      (session.deedOf move).drops_or_keeps session.world.store id
    · exact .dropped (store ▸ drops) (events ▸ List.mem_map_of_mem member)
    · refine .spared (store ▸ keeps) fun member => other ?_
      obtain ⟨_, member, same⟩ := List.mem_map.mp (events ▸ member)
      cases same
      exact member
  | @fetch task reply repository stage _ _ _ under advanced world =>
    subst world
    obtain ⟨gate, ticket, lineage, page, rfl, same, valid, basis, generation, scope, events⟩ |
      ⟨event, drops⟩ | ⟨event, keeps⟩ := (Fetch.Steps.of_advance advanced).fate id
    · exact .kept rfl under same valid basis generation scope ((events_of_fetch under).trans events)
    · exact .dropped drops ((events_of_fetch under).symm ▸ event)
    · exact .spared keeps ((events_of_fetch under).symm ▸ event)

/-- The rows of a repository are dropped ever more often. -/
theorem generation_le_of_move (id : RepositoryId) (moved : session.move move = some next) :
    session.world.store.generation id ≤ next.world.store.generation id := by
  cases Fate.of_move id moved with
  | kept _ _ _ _ _ generation => exact Nat.le_of_eq generation.symm
  | dropped drops => exact Nat.le_of_lt drops.generation
  | spared keeps => exact Nat.le_of_eq keeps.generation.symm

/-- The move that drops the rows of a repository counts it. -/
theorem drops_of_dropped {id : RepositoryId} (moved : session.move move = some next)
    (event : .dropped id ∈ session.events move) :
    Store.Drops id session.world.store next.world.store := by
  cases Fate.of_move id moved with
  | kept _ _ _ _ _ _ _ events => simp [events] at event
  | dropped drops => exact drops
  | spared _ other => exact absurd event other

theorem generation_le_of_play (id : RepositoryId) (played : session.play moves = some final) :
    session.world.store.generation id ≤ final.world.store.generation id :=
  play_induction
    (fun _ final => session.world.store.generation id ≤ final.world.store.generation id)
    Nat.le.refl (fun _ _ _ _ _ below moved => Nat.le_trans below (generation_le_of_move id moved))
    played

theorem pageSize_of_move (moved : session.move move = some next) :
    next.world.pageSize = session.world.pageSize := by
  cases Shift.of_move moved with
  | fetch _ advanced world => exact world ▸ (Fetch.Steps.of_advance advanced).pageSize_eq
  | deed _ _ _ _ pageSize => exact pageSize

theorem pageSize_of_play (played : session.play moves = some final) :
    final.world.pageSize = session.world.pageSize :=
  play_induction (fun _ final => final.world.pageSize = session.world.pageSize) rfl
    (fun _ _ _ _ _ same moved => (pageSize_of_move moved).trans same) played

/-! ### Where fetches come from -/

/-- A fetch that is under way after a move was there before and did not move, or has just begun,
or has taken this step. -/
theorem fetch_of_move (moved : session.move move = some next) {task : Nat}
    {repository : Repository} {stage : Fetch}
    (under : next.fetchOf? task = some (repository, stage)) :
    session.fetchOf? task = some (repository, stage) ∧ (∀ reply, move ≠ .advance task reply) ∨
      stage = .lookup ∨
      ∃ reply before, move = .advance task reply ∧
        session.fetchOf? task = some (repository, before) ∧
        Fetch.Steps task repository session.world before reply next.world stage := by
  cases Shift.of_move moved with
  | deed nothing fetches _ _ _ =>
    obtain stayed | ⟨-, other, began⟩ := fetches task
    · refine Or.inl ⟨stayed ▸ under, fun reply mover => ?_⟩
      subst mover
      have none : session.fetchOf? task = none := nothing
      rw [stayed, none] at under
      cases under
    · rw [began] at under
      cases under
      exact Or.inr (Or.inl rfl)
  | @fetch mover reply other before after _ _ held advanced world mine others =>
    subst world
    by_cases same : task = mover
    · subst same
      rw [mine] at under
      obtain ⟨rfl, rfl⟩ := Fetch.eq_of_underWay? under
      exact Or.inr (Or.inr ⟨reply, before, rfl, held, .of_advance advanced⟩)
    · refine Or.inl ⟨others task same ▸ under, fun _ moves => same ?_⟩
      cases moves
      rfl

/-- When the task of a fetch moves, the fetch takes a step. -/
theorem steps_of_move {task : Nat} {repository : Repository} {stage : Fetch} {reply : Option Reply}
    (under : session.fetchOf? task = some (repository, stage))
    (moved : session.move (.advance task reply) = some next) :
    ∃ stage', Fetch.Steps task repository session.world stage reply next.world stage' ∧
      next.fetchOf? task = stage'.underWay? repository := by
  cases Shift.of_move moved with
  | deed nothing _ _ _ _ =>
    have none : session.fetchOf? task = none := nothing
    rw [none] at under
    cases under
  | @fetch _ _ other before after _ _ held advanced world mine _ =>
    obtain ⟨rfl, rfl⟩ := Prod.mk.inj (Option.some.inj (held.symm.trans under))
    exact ⟨after, .of_advance (world ▸ advanced), mine⟩

/-- A page that is kept was brought by a fetch with a valid ticket, and comes below the rows that
the ticket noted. -/
theorem exists_keep_of_kept {request : PageRequest} {page : List Commit}
    (moved : session.move move = some next) (event : .kept request page ∈ session.events move) :
    ∃ task repository gate ticket,
      session.fetchOf? task = some (repository, .keep gate ticket request.lineage page) ∧
      request = ticket.request task repository.id session.world.pageSize request.lineage ∧
      ticket.isValid session.world.store repository.id = true ∧
      next.world.store.basis? repository.id =
        some (request.lineage, ticket.grown request.lineage page) := by
  obtain ⟨task, reply, repository, stage, rfl, under, occurs⟩ :=
    exists_fetch_of_mem_events event nofun
  cases occurs with
  | @kept gate ticket lineage page valid =>
    refine ⟨task, repository, gate, ticket, under, rfl, valid, ?_⟩
    obtain ⟨stage', steps, -⟩ := steps_of_move under moved
    generalize next.world = world at steps
    -- The ticket is valid, so the step is not the one that only leaves.
    cases steps with
    | keep =>
      exact (Fetch.basis?_store session.world _ _ lineage (ticket.grown lineage page)
        page.length).trans (if_pos rfl)
    | leave _ silent _ =>
      rw [Fetch.events, if_pos valid] at silent
      cases silent

/-- No ticket counts more drops than there were. -/
def Counted (session : Session) : Prop :=
  ∀ task repository stage ticket, session.fetchOf? task = some (repository, stage) →
    stage.ticket? = some ticket →
    ticket.generation ≤ session.world.store.generation repository.id

theorem Counted.of_move (counted : session.Counted) (moved : session.move move = some next) :
    next.Counted := by
  intro task repository stage ticket under held
  refine Nat.le_trans ?_ (generation_le_of_move repository.id moved)
  obtain ⟨stayed, -⟩ | rfl | ⟨reply, before, -, was, steps⟩ := fetch_of_move moved under
  · exact counted task repository stage ticket stayed held
  · cases held
  · obtain ⟨-, old | rfl⟩ := steps.ticket held
    · exact counted task repository before ticket was old
    · exact Nat.le.refl

/-- When rows are dropped, all tickets there are come to count too few drops. -/
theorem Counted.lt_of_dropped {id : RepositoryId} (counted : session.Counted)
    (moved : session.move move = some next) (event : .dropped id ∈ session.events move) {task : Nat}
    {repository : Repository} {stage : Fetch} {ticket : Ticket}
    (under : next.fetchOf? task = some (repository, stage)) (same : repository.id = id)
    (held : stage.ticket? = some ticket) :
    ticket.generation < next.world.store.generation id := by
  have more := (drops_of_dropped moved event).generation
  subst same
  obtain ⟨stayed, -⟩ | rfl | ⟨reply, before, -, was, steps⟩ := fetch_of_move moved under
  · exact Nat.lt_of_le_of_lt (counted task repository stage ticket stayed held) more
  · cases held
  · obtain ⟨world, old | -⟩ := steps.ticket held
    · exact Nat.lt_of_le_of_lt (counted task repository before ticket was old) more
    · -- A fetch that takes its ticket drops nothing.
      rw [world] at more
      exact absurd more (Nat.lt_irrefl _)

/-- No fetch is under way in a new session. -/
theorem fetchOf?_new (pageSize : Nat) (scope : Scope) (task : Nat) :
    (new pageSize scope).fetchOf? task = none := rfl

/-- In every run no ticket counts more drops than there were. -/
theorem Counted.of_play {pageSize : Nat} {scope : Scope}
    (played : (new pageSize scope).play moves = some session) : session.Counted :=
  play_induction (fun _ session => session.Counted)
    (fun task _ _ _ under => by rw [fetchOf?_new] at under; cases under)
    (fun _ _ _ _ _ counted moved => counted.of_move moved) played

/-! ### Runs without a removal -/

/-- No activity removes a repository. -/
def Sparing (id : RepositoryId) (session : Session) : Prop :=
  ∀ (task : Nat) (activity : Activity), session.activities[task]? = some activity →
    activity.removes? ≠ some id

theorem Sparing.of_move {id : RepositoryId} (sparing : session.Sparing id)
    (moved : session.move move = some next) (other : move ≠ .start (.remove id)) :
    next.Sparing id := by
  intro task activity held removes
  cases move with
  | start call =>
    obtain rfl := Option.some.inj moved
    rw [start, List.getElem?_append] at held
    split at held
    next => exact sparing task activity held removes
    next =>
      -- Only the call for a removal begins as one.
      obtain rfl := List.mem_singleton.mp (List.mem_of_getElem? held)
      cases call with
      | remove _ =>
        cases removes
        exact other rfl
      | _ => cases removes
  | advance mover reply =>
    obtain ⟨before, was, advanced⟩ := Option.bind_eq_some_iff.mp moved
    obtain ⟨⟨world, after⟩, stepped, made⟩ := Option.bind_eq_some_iff.mp advanced
    obtain rfl := Option.some.inj made
    rw [List.getElem?_set] at held
    split at held
    next =>
      split at held
      next =>
        obtain rfl := Option.some.inj held
        exact sparing mover before was (Activity.removes?_of_advance stepped removes)
      next => cases held
    next => exact sparing task activity held removes

/-- In a run in which nobody asks for the removal of a repository no activity removes it. -/
theorem Sparing.of_play {id : RepositoryId} {pageSize : Nat} {scope : Scope}
    (played : (new pageSize scope).play moves = some session)
    (kept : .start (.remove id) ∉ moves) : session.Sparing id := by
  refine play_induction
    (fun moves session => Move.start (.remove id) ∉ moves → session.Sparing id)
    (fun _ _ _ held => ?_) (fun moves middle move next _ sparing moved kept => ?_) played kept
  · rw [new, List.getElem?_nil] at held
    cases held
  rw [List.mem_append, List.mem_singleton, not_or] at kept
  exact (sparing kept.1).of_move moved (Ne.symm kept.2)

theorem Sparing.removes?_deedOf {id : RepositoryId} (sparing : session.Sparing id) (move : Move) :
    (session.deedOf move).removes? ≠ some id := by
  cases move with
  | start call =>
    intro rest
    cases rest
  | advance task reply =>
    rw [deedOf]
    cases held : session.activities[task]? with
    | none =>
      intro rest
      cases rest
    | some activity =>
      rw [Option.map_some, Option.getD_some, Activity.removes?_deed]
      exact sparing task activity held

/-! ### Small runs -/

/-- The moves of a fetch that goes on to ask for a page without having to wait. -/
def asking (task : Nat) (repository : Repository) (lineage : Lineage) : List Move :=
  .start (.fetch repository) ::
    (List.replicate 5 none ++ [some (Reply.lineage (.ok (some lineage)))]).map (.advance task)

/-- The moves of a fetch that is answered and stores the page. -/
def storing (task : Nat) (page : List Commit) : List Move :=
  [.advance task (some (.page (.ok page))), .advance task none]

/-- A repository with a source, to play small runs with. -/
def sampleRepository : Repository := { id := ⟨"r"⟩, root := "/r", source := some 0 }

/-- The lineage of a lone branch. -/
def sampleLineage : Lineage :=
  { id := "refs/heads/main", name := "main", revision := some "1", remote := none, base := none }

/-- A page of one commit. -/
def samplePage (id : String) : List Commit :=
  [{ id, parents := [], message := "", author := "", email := none, time := ⟨0, 0⟩
     statistics := none, labels := [] }]

/-- A session with pages of one commit in which some moves were made. -/
def sampleAfter (moves : List Move) : Session :=
  ((new 1 .lineage).play moves).getD (new 1 .lineage)

/-- Moves can be made one after the other if all of them can be made. -/
theorem play_sampleAfter {earlier later : List Move}
    (possible : ((new 1 .lineage).play (earlier ++ later)).isSome = true) :
    (sampleAfter earlier).play later = some (sampleAfter (earlier ++ later)) := by
  obtain ⟨final, whole⟩ := Option.isSome_iff_exists.mp possible
  obtain ⟨middle, before, after⟩ :=
    Option.bind_eq_some_iff.mp ((play_append _ earlier later).symm.trans whole)
  rw [sampleAfter, sampleAfter, before, whole]
  exact after

/-- A first page is fetched and stored. -/
def sampleRun : List Move :=
  asking 0 sampleRepository sampleLineage ++ storing 0 (samplePage "1")

/-- Then one more page is fetched. -/
def pagedRun : List Move :=
  [.start (.edit (.setWantsMore ⟨"r"⟩ true)), .advance 1 none] ++
    asking 2 sampleRepository sampleLineage ++ storing 2 (samplePage "2")

end CommitHistory.Session
