/-
# The steps of a fetch

A fetch passes through its stages in one order, with a few short cuts to the end. What it
does on the way that matters to others is put down as events: it asks for a page, it is
answered, it drops the rows that are there, or it keeps a page.

## Main definitions

* `PageRequest`, `Event` — what is asked for, and what happens to it.
* `Fetch.events`, `Fetch.Occurs` — the events of one step, and the rules for them.
* `Fetch.Steps` — the steps of a fetch as rules.
* `Fetch.Ends` — the last steps of a fetch, with what comes of it.

## Main results

* `Fetch.Steps.of_advance`, `Fetch.Ends.of_advance` — every step follows one of the rules.
* `Fetch.Steps.ticket` — a fetch keeps the ticket that it has taken.
-/

import CommitHistory.Session.Fetch

namespace CommitHistory

/-- The references whose commits a scope asks for; none stands for all. -/
def Scope.ids (scope : Scope) (lineage : Lineage) : List String :=
  match scope with
  | .all => []
  | .lineage => lineage.ids

namespace Session

/-- A query for a page of a repository, with the task that asks it, the lineage that was checked
out and the scope of histories when it was asked. -/
structure PageRequest where
  task : Nat
  repository : RepositoryId
  lineage : Lineage
  scope : Scope
  query : Query
deriving DecidableEq, Repr

/-- What happens to the rows of repositories. -/
inductive Event where
  /-- A source is asked for a page. -/
  | asked (request : PageRequest)
  /-- A source answers with a page. -/
  | answered (request : PageRequest) (page : List Commit)
  /-- The rows of a repository are dropped, also if there are none. -/
  | dropped (id : RepositoryId)
  /-- A page that was asked for is stored. -/
  | kept (request : PageRequest) (page : List Commit)
deriving DecidableEq, Repr

/-- The request for the next page. -/
def Ticket.request (ticket : Ticket) (task : Nat) (id : RepositoryId) (pageSize : Nat)
    (lineage : Lineage) : PageRequest :=
  { task, repository := id, lineage, scope := ticket.scope
    query := ticket.pageQuery pageSize lineage }

namespace Fetch

/-- The events of one step of a fetch. -/
def events (task : Nat) (repository : Repository) (world : World) :
    Fetch → Option Reply → List Event
  | .askLineage _ ticket, some (.lineage (.ok (some lineage))) =>
    [.asked (ticket.request task repository.id world.pageSize lineage)]
  | .askPage _ ticket lineage, some (.page (.ok page)) =>
    [.answered (ticket.request task repository.id world.pageSize lineage) page]
  | .drop _ ticket, none =>
    if world.store.generation repository.id = ticket.generation then [.dropped repository.id]
    else []
  | .keep _ ticket lineage page, none =>
    if ticket.isValid world.store repository.id then
      [.kept (ticket.request task repository.id world.pageSize lineage) page]
    else []
  | _, _ => []

/-- The events as rules: where a fetch stands, what it is told, and what is put down. -/
inductive Occurs (task : Nat) (repository : Repository) (world : World) :
    Fetch → Option Reply → Event → Prop
  | asked (gate : Nat) (ticket : Ticket) (lineage : Lineage) :
      Occurs task repository world (.askLineage gate ticket)
        (some (.lineage (.ok (some lineage))))
        (.asked (ticket.request task repository.id world.pageSize lineage))
  | answered (gate : Nat) (ticket : Ticket) (lineage : Lineage) (page : List Commit) :
      Occurs task repository world (.askPage gate ticket lineage) (some (.page (.ok page)))
        (.answered (ticket.request task repository.id world.pageSize lineage) page)
  | dropped (gate : Nat) {ticket : Ticket}
      (current : world.store.generation repository.id = ticket.generation) :
      Occurs task repository world (.drop gate ticket) none (.dropped repository.id)
  | kept (gate : Nat) {ticket : Ticket} (lineage : Lineage) (page : List Commit)
      (valid : ticket.isValid world.store repository.id = true) :
      Occurs task repository world (.keep gate ticket lineage page) none
        (.kept (ticket.request task repository.id world.pageSize lineage) page)

theorem mem_events_iff {event : Event} {task : Nat} {repository : Repository} {world : World}
    {stage : Fetch} {reply : Option Reply} :
    event ∈ stage.events task repository world reply ↔
      Occurs task repository world stage reply event := by
  constructor
  · intro put
    unfold events at put
    split at put
    next gate ticket lineage =>
      cases List.mem_singleton.mp put
      exact .asked gate ticket lineage
    next gate ticket lineage page =>
      cases List.mem_singleton.mp put
      exact .answered gate ticket lineage page
    next gate ticket =>
      split at put
      next current =>
        cases List.mem_singleton.mp put
        exact .dropped gate current
      next => cases put
    next gate ticket lineage page =>
      split at put
      next valid =>
        cases List.mem_singleton.mp put
        exact .kept gate lineage page valid
      next => cases put
    next => cases put
  · intro occurs
    cases occurs with
    | asked _ _ _ | answered _ _ _ _ => exact List.mem_singleton_self _
    | dropped _ current =>
      rw [events, if_pos current]
      exact List.mem_singleton_self _
    | kept _ _ _ valid =>
      rw [events, if_pos valid]
      exact List.mem_singleton_self _

/-- A fetch drops rows when it has found no lineage, unless they were dropped since it took its
ticket. -/
theorem dropped_mem_events_iff {id : RepositoryId} {task : Nat} {repository : Repository}
    {world : World} {stage : Fetch} {reply : Option Reply} :
    .dropped id ∈ stage.events task repository world reply ↔
      ∃ gate ticket, stage = .drop gate ticket ∧ reply = none ∧ repository.id = id ∧
        world.store.generation id = ticket.generation := by
  rw [mem_events_iff]
  constructor
  · rintro ⟨⟩
    next gate ticket current => exact ⟨gate, ticket, rfl, rfl, rfl, current⟩
  · rintro ⟨gate, ticket, rfl, rfl, rfl, current⟩
    exact .dropped gate current

/-- The turnstile that a fetch is inside of. -/
def inside? : Fetch → Option Nat
  | .recheck gate | .note gate | .askLineage gate _ | .askPage gate _ _ | .drop gate _
  | .keep gate _ _ _ => some gate
  | .lookup | .findGate | .enter _ | .waiting _ | .done _ => none

/-- The turnstile that a fetch comes to, waits at or is inside of. -/
def gate? : Fetch → Option Nat
  | .enter gate | .waiting gate | .recheck gate | .note gate | .askLineage gate _
  | .askPage gate _ _ | .drop gate _ | .keep gate _ _ _ => some gate
  | .lookup | .findGate | .done _ => none

/-- What a fetch noted before it asked. -/
def ticket? : Fetch → Option Ticket
  | .askLineage _ ticket | .askPage _ ticket _ | .drop _ ticket | .keep _ ticket _ _ => some ticket
  | _ => none

/-- The steps of a fetch. A fetch that leaves without a word has nothing to store, was refused
by its source, or comes too late. -/
inductive Steps (task : Nat) (repository : Repository) (world : World) :
    Fetch → Option Reply → World → Fetch → Prop
  | answerAtOnce (rows : List Row) :
      Steps task repository world .lookup none world (.done (.ok rows))
  | goOn : Steps task repository world .lookup none world .findGate
  | find :
      Steps task repository world .findGate none
        { world with gates := (world.gates.find repository.id).1 }
        (.enter (world.gates.find repository.id).2)
  | enter {gate : Nat} (admitted : (world.gates.enter gate task).admits gate task = true) :
      Steps task repository world (.enter gate) none
        { world with gates := world.gates.enter gate task } (.recheck gate)
  | queue {gate : Nat} :
      Steps task repository world (.enter gate) none
        { world with gates := world.gates.enter gate task } (.waiting gate)
  | pass {gate : Nat} (admitted : world.gates.admits gate task = true) :
      Steps task repository world (.waiting gate) none world (.recheck gate)
  | recheck {gate : Nat} (missing : world.store.fresh? repository.id = none) :
      Steps task repository world (.recheck gate) none world (.note gate)
  | note {gate : Nat} :
      Steps task repository world (.note gate) none world
        (.askLineage gate (.take world.store repository.id))
  | ask {gate : Nat} {ticket : Ticket} (lineage : Lineage) :
      Steps task repository world (.askLineage gate ticket)
        (some (.lineage (.ok (some lineage)))) world (.askPage gate ticket lineage)
  | miss {gate : Nat} {ticket : Ticket} :
      Steps task repository world (.askLineage gate ticket) (some (.lineage (.ok none))) world
        (.drop gate ticket)
  | answer {gate : Nat} {ticket : Ticket} {lineage : Lineage} (page : List Commit) :
      Steps task repository world (.askPage gate ticket lineage) (some (.page (.ok page))) world
        (.keep gate ticket lineage page)
  | drop {gate : Nat} {ticket : Ticket}
      (current : world.store.generation repository.id = ticket.generation) :
      Steps task repository world (.drop gate ticket) none
        { world with
          store := world.store.invalidate repository.id, gates := world.gates.leave gate }
        (.done (.ok []))
  | keep {gate : Nat} {ticket : Ticket} {lineage : Lineage} {page : List Commit}
      (valid : ticket.isValid world.store repository.id = true) :
      Steps task repository world (.keep gate ticket lineage page) none
        (finish (store world repository.id lineage (ticket.grown lineage page) page.length) gate
          (.ok (ticket.grown lineage page).rows)).1
        (.done (.ok (ticket.grown lineage page).rows))
  | leave {stage : Fetch} {reply : Option Reply} {gate : Nat} (inside : stage.inside? = some gate)
      (silent : stage.events task repository world reply = []) (result : Except Fault (List Row)) :
      Steps task repository world stage reply { world with gates := world.gates.leave gate }
        (.done result)

variable {task : Nat} {repository : Repository} {world world' : World} {stage stage' : Fetch}
  {reply : Option Reply}

/-- Every step of a fetch follows one of the rules. -/
theorem Steps.of_advance
    (advanced : stage.advance task repository world reply = some (world', stage')) :
    Steps task repository world stage reply world' stage' := by
  unfold Fetch.advance at advanced
  split at advanced
  next =>
    split at advanced
    next => cases advanced; exact .answerAtOnce []
    next =>
      split at advanced <;> cases advanced
      next rows _ => exact .answerAtOnce rows
      next => exact .goOn
  next => cases advanced; exact .find
  next gate =>
    cases advanced
    split
    next admitted => exact .enter admitted
    next => exact .queue
  next gate =>
    split at advanced
    next admitted => cases advanced; exact .pass admitted
    next => cases advanced
  next gate =>
    split at advanced <;> cases advanced
    next rows _ => exact .leave rfl rfl (.ok rows)
    next missing => exact .recheck missing
  next => cases advanced; exact .note
  next gate _ fault => cases advanced; exact .leave rfl rfl (.error fault)
  next => cases advanced; exact .miss
  next lineage => cases advanced; exact .ask lineage
  next gate _ _ fault => cases advanced; exact .leave rfl rfl (.error fault)
  next page => cases advanced; exact .answer page
  next gate ticket =>
    split at advanced <;> cases advanced
    next current => exact .drop current
    next old =>
      have silent : events task repository world (.drop gate ticket) none = [] := if_neg old
      exact .leave rfl silent (.ok [])
  next gate ticket lineage page =>
    simp only at advanced
    split at advanced <;> cases advanced
    next valid => exact .keep valid
    next old =>
      have silent : events task repository world (.keep gate ticket lineage page) none = [] :=
        if_neg old
      exact .leave rfl silent (.ok (ticket.grown lineage page).rows)
  next => cases advanced

theorem Steps.pageSize_eq (steps : Steps task repository world stage reply world' stage') :
    world'.pageSize = world.pageSize := by
  cases steps <;> rfl

/-- A fetch takes its ticket when it makes a note, and keeps it. The step that leads to a stage
with a ticket leaves the world as it is. -/
theorem Steps.ticket (steps : Steps task repository world stage reply world' stage')
    {ticket : Ticket} (held : stage'.ticket? = some ticket) :
    world' = world ∧
      (stage.ticket? = some ticket ∨ ticket = .take world.store repository.id) := by
  cases steps with
  | note => exact ⟨rfl, Or.inr (Option.some.inj held).symm⟩
  | ask _ | miss | answer _ => exact ⟨rfl, Or.inl held⟩
  | _ => cases held

/-- A fetch of a repository without a source ends at once. -/
theorem source_ne_none_of_advance (sourced : stage = .lookup ∨ repository.source ≠ none)
    (advanced : stage.advance task repository world reply = some (world', stage'))
    (under : ∀ result, stage' ≠ .done result) : repository.source ≠ none := by
  obtain rfl | source := sourced
  · cases reply with
    | some _ => cases advanced
    | none =>
      rw [advance] at advanced
      split at advanced
      next => cases advanced; exact absurd rfl (under _)
      next source => exact mt Option.isNone_iff_eq_none.mpr source
  · exact source

/-- A fetch whose ticket counts too few drops leaves the store alone. -/
theorem Steps.store_of_stale (steps : Steps task repository world stage reply world' stage')
    {ticket : Ticket} (held : stage.ticket? = some ticket)
    (stale : world.store.generation repository.id ≠ ticket.generation) :
    world'.store = world.store := by
  cases steps with
  | drop current =>
    cases held
    exact absurd current stale
  | keep valid =>
    cases held
    rw [Ticket.isValid, Bool.and_eq_true, decide_eq_true_eq] at valid
    exact absurd valid.1 stale
  | _ => rfl

/-- An answer that comes too late is handed out all the same. -/
theorem advance_keep_of_stale {gate : Nat} {ticket : Ticket}
    (stale : world.store.generation repository.id ≠ ticket.generation) (lineage : Lineage)
    (page : List Commit) :
    (keep gate ticket lineage page).advance task repository world none =
      some (finish world gate (.ok (ticket.grown lineage page).rows)) := by
  have old : ticket.isValid world.store repository.id = false := by
    rw [Ticket.isValid, decide_eq_false stale, Bool.false_and]
  simp only [advance, old, Bool.false_eq_true, if_false]

/-- The last step of a fetch: where it stood, what it was told, the world after it and what came of
the fetch. -/
inductive Ends (repository : Repository) (world : World) :
    Fetch → Option Reply → World → Except Fault (List Row) → Prop
  | sourceless (without : repository.source = none) :
      Ends repository world .lookup none world (.ok [])
  | found {rows : List Row} (fresh : world.store.fresh? repository.id = some rows) :
      Ends repository world .lookup none world (.ok rows)
  | foundInside {gate : Nat} {rows : List Row}
      (fresh : world.store.fresh? repository.id = some rows) :
      Ends repository world (.recheck gate) none (finish world gate (.ok rows)).1 (.ok rows)
  | withoutLineage {gate : Nat} {ticket : Ticket} (fault : Fault) :
      Ends repository world (.askLineage gate ticket) (some (.lineage (.error fault)))
        (finish world gate (.error fault)).1 (.error fault)
  | withoutPage {gate : Nat} {ticket : Ticket} {lineage : Lineage} (fault : Fault) :
      Ends repository world (.askPage gate ticket lineage) (some (.page (.error fault)))
        (finish world gate (.error fault)).1 (.error fault)
  | dropped {gate : Nat} {ticket : Ticket}
      (current : world.store.generation repository.id = ticket.generation) :
      Ends repository world (.drop gate ticket) none
        (finish { world with store := world.store.invalidate repository.id } gate (.ok [])).1
        (.ok [])
  | spared {gate : Nat} {ticket : Ticket}
      (old : world.store.generation repository.id ≠ ticket.generation) :
      Ends repository world (.drop gate ticket) none (finish world gate (.ok [])).1 (.ok [])
  | kept {gate : Nat} {ticket : Ticket} {lineage : Lineage} {page : List Commit}
      (valid : ticket.isValid world.store repository.id = true) :
      Ends repository world (.keep gate ticket lineage page) none
        (finish (store world repository.id lineage (ticket.grown lineage page) page.length) gate
          (.ok (ticket.grown lineage page).rows)).1
        (.ok (ticket.grown lineage page).rows)
  | handedOut {gate : Nat} {ticket : Ticket} {lineage : Lineage} {page : List Commit}
      (old : ticket.isValid world.store repository.id ≠ true) :
      Ends repository world (.keep gate ticket lineage page) none
        (finish world gate (.ok (ticket.grown lineage page).rows)).1
        (.ok (ticket.grown lineage page).rows)

/-- Every last step of a fetch follows one of the rules. -/
theorem Ends.of_advance {result : Except Fault (List Row)}
    (advanced : stage.advance task repository world reply = some (world', .done result)) :
    Ends repository world stage reply world' result := by
  unfold Fetch.advance at advanced
  split at advanced
  next =>
    split at advanced
    next without => cases advanced; exact .sourceless (Option.isNone_iff_eq_none.mp without)
    next =>
      split at advanced <;> cases advanced
      next fresh => exact .found fresh
  next => cases advanced
  next =>
    simp only [Option.some.injEq, Prod.mk.injEq] at advanced
    split at advanced <;> cases advanced.2
  next => split at advanced <;> cases advanced
  next =>
    split at advanced <;> cases advanced
    next fresh => exact .foundInside fresh
  next => cases advanced
  next fault => cases advanced; exact .withoutLineage fault
  next => cases advanced
  next => cases advanced
  next fault => cases advanced; exact .withoutPage fault
  next => cases advanced
  next =>
    split at advanced <;> cases advanced
    next current => exact .dropped current
    next old => exact .spared old
  next =>
    simp only at advanced
    split at advanced <;> cases advanced
    next valid => exact .kept valid
    next old => exact .handedOut old
  next => cases advanced

end Fetch

end Session

end CommitHistory
