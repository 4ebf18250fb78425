/-
# What sources are asked

The history of a run says which pages were asked for and which came. Both can be seen in the
sessions of the run. A request is put down when a fetch comes to wait for its page, so the session
then asks the source of the repository exactly what was put down; and a page is put down when it is
told to a fetch that waits for it.

## Main definitions

* `Session.Waits` — a session waits for the answer to a request.
* `Session.Recorded` — a history puts down all that was asked for and all that came, and nothing
  else.

## Main results

* `Session.question?_of_fetchOf?` — a session asks what its fetches ask.
* `Session.HasSources.of_play` — only a repository with a source is asked about.
* `Session.recorded_of_play` — the history of every run is such a record.
-/

import CommitHistory.Proofs.Session.History

namespace CommitHistory.Session

/-! ### The questions of fetches -/

section

variable {asking repository : Repository} {world : World} {fetch : Fetch}

theorem LoadMore.question?_of_fetch? {stage : LoadMore}
    (under : stage.fetch? repository = some (asking, fetch)) :
    stage.question? world repository = fetch.question? world asking := by
  cases stage with
  | fetching _ =>
    obtain ⟨rfl, rfl⟩ := Fetch.eq_of_underWay? under
    rfl
  | _ => cases under

theorem Children.question?_of_fetch? {stage : Children}
    (under : stage.fetch? = some (asking, fetch)) :
    stage.question? world = fetch.question? world asking := by
  cases stage with
  | fetching _ _ =>
    obtain ⟨rfl, rfl⟩ := Fetch.eq_of_underWay? under
    rfl
  | _ => cases under

theorem Showing.question?_of_fetch? {stage : Showing}
    (under : stage.fetch? = some (asking, fetch)) :
    stage.question? world = fetch.question? world asking := by
  cases stage with
  | reading _ => exact Children.question?_of_fetch? under
  | _ => cases under

theorem Refresh.question?_of_fetch? {stage : Refresh}
    (under : stage.fetch? = some (asking, fetch)) :
    stage.question? world = fetch.question? world asking := by
  cases stage with
  | updating _ update =>
    cases update with
    | showing _ => exact Showing.question?_of_fetch? under
    | _ => cases under
  | _ => cases under

theorem MoreLines.question?_of_fetch? {stage : MoreLines}
    (under : stage.fetch? = some (asking, fetch)) :
    stage.question? world = fetch.question? world asking := by
  cases stage with
  | loading _ _ => exact LoadMore.question?_of_fetch? under
  | showing _ => exact Showing.question?_of_fetch? under
  | _ => cases under

theorem Handling.question?_of_fetch? {stage : Handling}
    (under : stage.fetch? = some (asking, fetch)) :
    stage.question? world = fetch.question? world asking := by
  cases stage with
  | refreshing _ => exact Refresh.question?_of_fetch? under
  | _ => cases under

theorem Follow.question?_of_fetch? {stage : Follow}
    (under : stage.fetch? = some (asking, fetch)) :
    stage.question? world = fetch.question? world asking := by
  cases stage with
  | handling _ _ => exact Handling.question?_of_fetch? under
  | refreshing _ _ => exact Refresh.question?_of_fetch? under
  | _ => cases under

theorem Activity.question?_of_fetch? {activity : Activity}
    (under : activity.fetch? = some (asking, fetch)) :
    activity.question? world = fetch.question? world asking := by
  cases activity with
  | fetch _ _ =>
    obtain ⟨rfl, rfl⟩ := Fetch.eq_of_underWay? under
    rfl
  | loadMore _ _ => exact LoadMore.question?_of_fetch? under
  | children _ => exact Children.question?_of_fetch? under
  | refresh _ => exact Refresh.question?_of_fetch? under
  | moreLines _ => exact MoreLines.question?_of_fetch? under
  | handle _ => exact Handling.question?_of_fetch? under
  | follow _ => exact Follow.question?_of_fetch? under
  | _ => cases under

end

variable {session next final : Session} {move : Move} {moves : List Move} {task : Nat}
  {repository : Repository} {stage : Fetch}

/-- A task asks what the fetch under way in it asks. -/
theorem question?_of_fetchOf? (under : session.fetchOf? task = some (repository, stage)) :
    session.question? task = stage.question? session.world repository := by
  obtain ⟨activity, held, under⟩ := Option.bind_eq_some_iff.mp under
  rw [question?, held]
  exact Activity.question?_of_fetch? under

/-- A fetch that has begun is of a repository with a source. -/
def HasSources (session : Session) : Prop :=
  ∀ task repository stage, session.fetchOf? task = some (repository, stage) →
    stage = .lookup ∨ repository.source ≠ none

theorem HasSources.of_move (sources : session.HasSources) (moved : session.move move = some next) :
    next.HasSources := by
  intro task repository stage under
  cases Shift.of_move moved with
  | deed nothing fetches _ _ _ =>
    obtain stayed | ⟨-, other, began⟩ := fetches task
    · exact sources task repository stage (stayed ▸ under)
    · rw [began] at under
      cases under
      exact Or.inl rfl
  | @fetch mover _ _ before after _ _ held advanced _ mine others =>
    by_cases same : task = mover
    · subst same
      rw [mine] at under
      obtain ⟨rfl, rfl⟩ := Fetch.eq_of_underWay? under
      refine Or.inr (Fetch.source_ne_none_of_advance (sources task _ before held) advanced ?_)
      rintro result rfl
      cases under
    · exact sources task repository stage (others task same ▸ under)

/-- Nothing is asked about a repository without a source. -/
theorem HasSources.of_play {pageSize : Nat} {scope : Scope}
    (played : (new pageSize scope).play moves = some session) : session.HasSources :=
  play_induction (fun _ session => session.HasSources)
    (fun task _ _ under => by rw [fetchOf?_new] at under; cases under)
    (fun _ _ _ _ _ sources moved => sources.of_move moved) played

/-! ### Waiting for an answer -/

/-- A session waits for the answer to a request. The task of the request is under way with a fetch
of the repository for the lineage, noted in the scope, and it asks the source of the repository the
query. -/
def Waits (session : Session) (request : PageRequest) : Prop :=
  ∃ repository gate ticket source,
    session.fetchOf? request.task = some (repository, .askPage gate ticket request.lineage) ∧
    repository.id = request.repository ∧ ticket.scope = request.scope ∧
    repository.source = some source ∧
    session.question? request.task = some { source, query := request.query }

/-- Whoever fetches and waits for a page waits for the answer to its request. -/
theorem HasSources.waits (sources : session.HasSources) {gate : Nat} {ticket : Ticket}
    {lineage : Lineage}
    (under : session.fetchOf? task = some (repository, .askPage gate ticket lineage)) :
    session.Waits (ticket.request task repository.id session.world.pageSize lineage) := by
  obtain other | sources := sources task repository _ under
  · cases other
  obtain ⟨source, held⟩ := Option.ne_none_iff_exists'.mp sources
  refine ⟨repository, gate, ticket, source, under, rfl, rfl, held, ?_⟩
  rw [Ticket.request, question?_of_fetchOf? under, Fetch.question?, held]
  rfl

/-- There is no other request that it waits for. -/
theorem Waits.exists_request {request : PageRequest} (waits : session.Waits request) :
    ∃ repository gate ticket,
      session.fetchOf? request.task = some (repository, .askPage gate ticket request.lineage) ∧
      request =
        ticket.request request.task repository.id session.world.pageSize request.lineage := by
  obtain ⟨repository, gate, ticket, source, under, same, scope, held, asks⟩ := waits
  refine ⟨repository, gate, ticket, under, ?_⟩
  rw [question?_of_fetchOf? under, Fetch.question?, held] at asks
  have query : ticket.pageQuery session.world.pageSize request.lineage = request.query :=
    congrArg Question.query (Option.some.inj asks)
  rw [Ticket.request, query, same, scope]

/-! ### Records -/

/-- An event of a run is one of its moves. -/
theorem exists_move_of_mem_history {event : Event} (played : session.play moves = some final)
    (put : event ∈ session.history moves) :
    ∃ earlier move later middle next, moves = earlier ++ move :: later ∧
      session.play earlier = some middle ∧ middle.move move = some next ∧
      event ∈ middle.events move := by
  induction moves generalizing session with
  | nil => cases put
  | cons move rest ih =>
    obtain ⟨next, moved, after⟩ := Option.bind_eq_some_iff.mp played
    rw [history, moved] at put
    obtain now | after' := List.mem_append.mp put
    · exact ⟨[], move, rest, session, next, rfl, rfl, moved, now⟩
    · obtain ⟨earlier, other, later, middle, last, rfl, before, rest⟩ := ih after after'
      refine ⟨move :: earlier, other, later, middle, last, rfl, ?_, rest⟩
      exact Option.bind_eq_some_iff.mpr ⟨next, moved, before⟩

/-- The history of a run puts down what was asked for and what came, and nothing else. -/
structure Recorded (start : Session) (moves : List Move) : Prop where
  /-- A request is put down if the run comes to wait for its answer. -/
  asked : ∀ request, .asked request ∈ start.history moves ↔
    ∃ earlier later waiting, moves = earlier ++ later ∧ start.play earlier = some waiting ∧
      waiting.Waits request
  /-- A page is put down if it is told to the task that waits for it. -/
  answered : ∀ request page, .answered request page ∈ start.history moves ↔
    ∃ earlier later waiting,
      moves = earlier ++ .advance request.task (some (.page (.ok page))) :: later ∧
      start.play earlier = some waiting ∧ waiting.Waits request

/-- A fetch that waits for a page has asked for it. -/
theorem asked_mem_history {pageSize : Nat} {scope : Scope}
    (played : (new pageSize scope).play moves = some session) {gate : Nat} {ticket : Ticket}
    {lineage : Lineage}
    (under : session.fetchOf? task = some (repository, .askPage gate ticket lineage)) :
    .asked (ticket.request task repository.id session.world.pageSize lineage) ∈
      (new pageSize scope).history moves := by
  refine play_induction (fun moves session => ∀ task repository gate ticket lineage,
      session.fetchOf? task = some (repository, .askPage gate ticket lineage) →
      .asked (ticket.request task repository.id session.world.pageSize lineage) ∈
        (new pageSize scope).history moves)
    (fun _ _ _ _ _ under => by rw [fetchOf?_new] at under; cases under) ?_ played _ _ _ _ _ under
  intro moves middle move next before asked moved task repository gate ticket lineage under
  rw [history_concat before, pageSize_of_move moved, List.mem_append]
  obtain ⟨stayed, -⟩ | none | ⟨reply, stage, rfl, was, steps⟩ := fetch_of_move moved under
  · exact Or.inl (asked task repository gate ticket lineage stayed)
  · cases none
  · right
    rw [events_of_fetch was]
    generalize next.world = world at steps
    cases steps with
    | ask => exact List.mem_singleton_self _

/-- The history of every run puts down what was asked for and what came. -/
theorem recorded_of_play {pageSize : Nat} {scope : Scope}
    (played : (new pageSize scope).play moves = some session) :
    Recorded (new pageSize scope) moves := by
  refine ⟨fun request => ⟨fun put => ?_, ?_⟩, fun request page => ⟨fun put => ?_, ?_⟩⟩
  · obtain ⟨earlier, move, later, middle, next, rfl, before, moved, put⟩ :=
      exists_move_of_mem_history played put
    obtain ⟨task, reply, repository, stage, rfl, under, occurs⟩ :=
      exists_fetch_of_mem_events put nofun
    -- The next session is the one that waits.
    have after := play_concat_of_move before moved
    refine ⟨earlier ++ [.advance task reply], later, next, by simp, after, ?_⟩
    obtain ⟨stage', steps, coming⟩ := steps_of_move under moved
    cases occurs with
    | asked gate ticket lineage =>
      obtain rfl : stage' = .askPage gate ticket lineage := by
        generalize next.world = world at steps
        cases steps with
        | ask => rfl
        | leave _ silent _ => cases silent
      rw [← pageSize_of_move moved]
      exact (HasSources.of_play after).waits coming
  · rintro ⟨earlier, later, waiting, rfl, before, waits⟩
    obtain ⟨repository, gate, ticket, under, same⟩ := waits.exists_request
    have put := asked_mem_history before under
    rw [← same] at put
    rw [history_append before]
    exact List.mem_append_left _ put
  · obtain ⟨earlier, move, later, middle, next, rfl, before, moved, put⟩ :=
      exists_move_of_mem_history played put
    obtain ⟨task, reply, repository, stage, rfl, under, occurs⟩ :=
      exists_fetch_of_mem_events put nofun
    cases occurs with
    | answered gate ticket lineage page =>
      exact ⟨earlier, later, middle, rfl, before, (HasSources.of_play before).waits under⟩
  · rintro ⟨earlier, later, waiting, rfl, before, waits⟩
    obtain ⟨repository, gate, ticket, under, same⟩ := waits.exists_request
    have occurs : Fetch.Occurs request.task repository waiting.world _ _ _ :=
      .answered gate ticket request.lineage page
    rw [← same] at occurs
    rw [history_append before, history, events_of_fetch under, List.mem_append, List.mem_append]
    exact Or.inr (Or.inl (Fetch.mem_events_iff.mpr occurs))

end CommitHistory.Session
