/-
# Where stored rows come from

The rows that are stored for a repository are laid from pages that its source was asked for
and answered with, all for the stored lineage and the scope that histories have now. This
is kept by every move because a fetch carries the same account with it: what it noted was
laid from such pages, and what it brings was asked for since. The account goes back to any
moment at which nothing was stored; a fetch that asked before that moment has noted a lower
count, and cannot store anything.

## Main definitions

* `Served`, `Fetched` — a source was asked for pages and answered with them.
* `Fetch.Backed` — a fetch can account for what it carries.
* `Session.Accounted` — a session can account for the rows of a repository.

## Main results

* `Session.Accounted.of_move` — every move keeps the account.
* `Session.cached_of_play` — all stored rows were fetched for what is shown now.
* `Session.stale_never_stored` — what was asked for before rows were dropped is never stored.
* `Session.not_fetched_since_miss` — a fetch that finds no lineage does not always drop rows.
-/

import CommitHistory.Proofs.Graph.Pages
import CommitHistory.Proofs.Session.Question

namespace CommitHistory.Session

/-! ### Requests and their answers -/

/-- The request for the page below the given pages. -/
def PageRequest.below (task : Nat) (id : RepositoryId) (pageSize : Nat) (lineage : Lineage)
    (scope : Scope) (above : List (List Commit)) : PageRequest :=
  { task, repository := id, lineage, scope
    query := .page (scope.ids lineage) pageSize above.flatten.length }

/-- A source was asked for a page, and then it answered. -/
def Served (history : List Event) (request : PageRequest) (page : List Commit) : Prop :=
  List.Sublist [.asked request, .answered request page] history

/-- Pages that were asked for one below the other, all for one lineage and one scope. -/
inductive Fetched (history : List Event) (id : RepositoryId) (pageSize : Nat) (lineage : Lineage)
    (scope : Scope) : List (List Commit) → Prop
  | nothing : Fetched history id pageSize lineage scope []
  | next {task : Nat} {pages : List (List Commit)} {page : List Commit}
      (above : Fetched history id pageSize lineage scope pages)
      (served : Served history (.below task id pageSize lineage scope pages) page) :
      Fetched history id pageSize lineage scope (pages ++ [page])

/-- A graph that was laid from at least one page. -/
def Grounded (history : List Event) (id : RepositoryId) (pageSize : Nat) (lineage : Lineage)
    (scope : Scope) (graph : Graph) : Prop :=
  ∃ pages, pages ≠ [] ∧ graph = .ofPages lineage scope pages ∧
    Fetched history id pageSize lineage scope pages

variable {history : List Event} {id : RepositoryId} {pageSize floor : Nat} {lineage : Lineage}
  {scope : Scope} {graph : Graph}

theorem Served.append {request : PageRequest} {page : List Commit}
    (served : Served history request page) (later : List Event) :
    Served (history ++ later) request page :=
  served.trans (List.sublist_append_left history later)

theorem Served.of_asked {request : PageRequest} (asked : .asked request ∈ history)
    (page : List Commit) : Served (history ++ [.answered request page]) request page :=
  (List.singleton_sublist.mpr asked).append (.refl [Event.answered request page])

/-- Without a history nothing was fetched. -/
theorem not_grounded_nil : ¬ Grounded [] id pageSize lineage scope graph := by
  rintro ⟨pages, some, -, fetched⟩
  cases fetched with
  | nothing => exact some rfl
  | next _ served => cases served

theorem Fetched.append {pages : List (List Commit)}
    (fetched : Fetched history id pageSize lineage scope pages) (later : List Event) :
    Fetched (history ++ later) id pageSize lineage scope pages := by
  induction fetched with
  | nothing => exact .nothing
  | next _ served ih => exact .next ih (served.append later)

theorem Grounded.append (grounded : Grounded history id pageSize lineage scope graph)
    (later : List Event) : Grounded (history ++ later) id pageSize lineage scope graph := by
  obtain ⟨pages, some, laid, fetched⟩ := grounded
  exact ⟨pages, some, laid, fetched.append later⟩

/-- What a ticket noted was laid from pages, unless it noted nothing. -/
def Ticket.Grounded (history : List Event) (id : RepositoryId) (pageSize : Nat)
    (ticket : Ticket) : Prop :=
  ∀ lineage graph, ticket.basis = some (lineage, graph) →
    Session.Grounded history id pageSize lineage ticket.scope graph

/-- The graph that a ticket appends to was laid from pages, maybe from none. -/
theorem Ticket.Grounded.exists_pages {ticket : Ticket}
    (grounded : ticket.Grounded history id pageSize) (lineage : Lineage) :
    ∃ pages, ticket.graph lineage = .ofPages lineage ticket.scope pages ∧
      Fetched history id pageSize lineage ticket.scope pages := by
  unfold Ticket.graph
  split
  next => exact ⟨[], rfl, .nothing⟩
  next known graph noted =>
    split
    next same =>
      subst same
      obtain ⟨pages, -, laid, fetched⟩ := grounded known graph noted
      exact ⟨pages, laid, fetched⟩
    next => exact ⟨[], rfl, .nothing⟩

/-- A page that a fetch was answered with makes a longer graph of pages. -/
theorem Ticket.Grounded.grown {ticket : Ticket} (grounded : ticket.Grounded history id pageSize)
    {task : Nat} {lineage : Lineage} {page : List Commit}
    (served : Served history (ticket.request task id pageSize lineage) page) :
    Session.Grounded history id pageSize lineage ticket.scope (ticket.grown lineage page) := by
  obtain ⟨pages, laid, fetched⟩ := grounded.exists_pages lineage
  have some : pages ++ [page] ≠ [] :=
    List.append_ne_nil_of_right_ne_nil pages (List.cons_ne_nil page [])
  refine ⟨pages ++ [page], some, ?_, ?_⟩
  · rw [Graph.ofPages_concat, ← laid]
    rfl
  · have skip : ticket.request task id pageSize lineage =
        .below task id pageSize lineage ticket.scope pages := by
      rw [Ticket.request, Ticket.pageQuery, laid, Graph.size_ofPages]
      rfl
    exact .next fetched (skip ▸ served)

/-! ### The account of a fetch -/

/-- What a fetch carries is accounted for, if it was noted at no lower count than the floor. -/
structure Fetch.Backed (history : List Event) (id : RepositoryId) (pageSize floor task : Nat)
    (stage : Fetch) : Prop where
  noted : ∀ ticket, stage.ticket? = some ticket → floor ≤ ticket.generation →
    ticket.Grounded history id pageSize
  asked : ∀ gate ticket lineage, stage = .askPage gate ticket lineage →
    floor ≤ ticket.generation → .asked (ticket.request task id pageSize lineage) ∈ history
  answered : ∀ gate ticket lineage page, stage = .keep gate ticket lineage page →
    floor ≤ ticket.generation → Served history (ticket.request task id pageSize lineage) page

namespace Fetch.Backed

variable {task : Nat} {stage stage' : Fetch}

theorem of_ticket?_eq_none (none : stage.ticket? = none) :
    stage.Backed history id pageSize floor task where
  noted ticket held := by rw [none] at held; cases held
  asked gate ticket lineage here := by rw [here] at none; cases none
  answered gate ticket lineage page here := by rw [here] at none; cases none

theorem append (backed : stage.Backed history id pageSize floor task) (later : List Event) :
    stage.Backed (history ++ later) id pageSize floor task where
  noted ticket held high lineage graph basis :=
    (backed.noted ticket held high lineage graph basis).append later
  asked gate ticket lineage here high :=
    List.mem_append_left later (backed.asked gate ticket lineage here high)
  answered gate ticket lineage page here high :=
    (backed.answered gate ticket lineage page here high).append later

/-- A step of a fetch is backed by what is stored, what was asked before, and its own events. -/
theorem of_steps {repository : Repository} {world world' : World} {reply : Option Reply}
    (steps : Fetch.Steps task repository world stage reply world' stage')
    (backed : stage.Backed history repository.id world.pageSize floor task)
    (stored : ∀ lineage graph, world.store.basis? repository.id = some (lineage, graph) →
      Grounded history repository.id world.pageSize lineage world.store.scope graph) :
    stage'.Backed (history ++ stage.events task repository world reply) repository.id
      world.pageSize floor task where
  noted ticket held high lineage graph basis := by
    -- The ticket was there before, or it notes what is stored.
    refine Grounded.append ?_ _
    obtain ⟨-, old | rfl⟩ := steps.ticket held
    · exact backed.noted ticket old high lineage graph basis
    · exact stored lineage graph basis
  asked gate ticket lineage here high := by
    subst here
    cases steps with
    | ask _ => exact List.mem_append_right history (List.mem_singleton_self _)
  answered gate ticket lineage page here high := by
    subst here
    cases steps with
    | answer _ => exact Served.of_asked (backed.asked gate ticket lineage rfl high) page

end Fetch.Backed

/-! ### The account of a session -/

/-- A session can account for the rows of a repository by a history. -/
structure Accounted (history : List Event) (id : RepositoryId) (pageSize floor : Nat)
    (session : Session) : Prop where
  size : session.world.pageSize = pageSize
  bottom : floor ≤ session.world.store.generation id
  stored : ∀ lineage graph, session.world.store.basis? id = some (lineage, graph) →
    Grounded history id pageSize lineage session.world.store.scope graph
  fetches : ∀ task repository stage, session.fetchOf? task = some (repository, stage) →
    repository.id = id → stage.Backed history id pageSize floor task

variable {session next final : Session} {move : Move} {moves : List Move}

/-- Every move keeps the account, with its own events added. -/
theorem Accounted.of_move (accounted : session.Accounted history id pageSize floor)
    (moved : session.move move = some next) :
    next.Accounted (history ++ session.events move) id pageSize floor where
  size := (pageSize_of_move moved).trans accounted.size
  bottom := Nat.le_trans accounted.bottom (generation_le_of_move id moved)
  stored lineage graph held := by
    refine Grounded.append ?_ _
    cases Fate.of_move id moved with
    | @kept task gate repository ticket known page _ _ under same valid basis _ scope _ =>
      obtain ⟨rfl, rfl⟩ := Prod.mk.inj (Option.some.inj (basis.symm.trans held))
      simp only [Ticket.isValid, Bool.and_eq_true, decide_eq_true_eq] at valid
      -- A valid ticket counts all drops there were, so the account reaches back to it.
      have high : floor ≤ ticket.generation := valid.1 ▸ accounted.bottom
      have backed := accounted.fetches task repository _ under same
      rw [scope, valid.2]
      exact (backed.noted ticket rfl high).grown (backed.answered gate ticket known page rfl high)
    | dropped drops =>
      rw [drops.basis] at held
      cases held
    | spared keeps =>
      rw [keeps.basis] at held
      -- The scope changes only while nothing is stored.
      obtain scope | none := keeps.scope
      · exact scope ▸ accounted.stored lineage graph held
      · rw [none] at held
        cases held
  fetches task repository stage under same := by
    obtain ⟨stayed, -⟩ | rfl | ⟨reply, before, rfl, was, steps⟩ := fetch_of_move moved under
    · exact (accounted.fetches task repository stage stayed same).append _
    · exact .of_ticket?_eq_none rfl
    · subst same
      have backed := accounted.fetches task repository before was rfl
      have stored := accounted.stored
      rw [← accounted.size] at backed stored ⊢
      exact events_of_fetch was ▸ backed.of_steps steps stored

/-- Every run keeps the account, with its own history added. -/
theorem Accounted.of_play (accounted : session.Accounted history id pageSize floor)
    (played : session.play moves = some final) :
    final.Accounted (history ++ session.history moves) id pageSize floor := by
  refine play_induction
    (fun moves final => final.Accounted (history ++ session.history moves) id pageSize floor)
    ?_ ?_ played
  · exact (List.append_nil history).symm ▸ accounted
  · intro moves middle move next before accounted moved
    rw [history_concat before, ← List.append_assoc]
    exact accounted.of_move moved

/-- In a new session nothing is stored and no fetch is under way. -/
theorem Accounted.new (id : RepositoryId) (pageSize : Nat) (scope : Scope) :
    (new pageSize scope).Accounted [] id (World.clampPageSize pageSize) 0 where
  size := rfl
  bottom := Nat.zero_le _
  stored _ _ held := nomatch held
  fetches task _ _ under _ := by rw [fetchOf?_new] at under; cases under

/-- After rows were dropped the account can begin anew: nothing is stored, and every fetch that
asked before has noted a lower count. -/
theorem Accounted.of_dropped (counted : session.Counted) (moved : session.move move = some next)
    (event : .dropped id ∈ session.events move) :
    next.Accounted [] id next.world.pageSize (next.world.store.generation id) where
  size := rfl
  bottom := Nat.le.refl
  stored lineage graph held := by
    rw [(drops_of_dropped moved event).basis] at held
    cases held
  fetches task repository stage under same := by
    subst same
    -- The account asks nothing of a ticket below the floor.
    have low (ticket : Ticket) (held : stage.ticket? = some ticket) :
        ¬ next.world.store.generation repository.id ≤ ticket.generation :=
      Nat.not_le_of_lt (counted.lt_of_dropped moved event under rfl held)
    exact
      { noted := fun ticket held high => absurd high (low ticket held)
        asked := fun _ ticket _ here high => absurd high (low ticket (here ▸ rfl))
        answered := fun _ ticket _ _ here high => absurd high (low ticket (here ▸ rfl)) }

/-! ### Stored rows -/

/-- Whatever runs happened before, the rows that are stored for a repository were laid from pages
that were asked for in order, for the stored lineage and the scope that histories have now. In
the history of a lineage alone nothing is neutral. What the history puts down as asked is what the
source was asked, and what it puts down as the answer is what the source answered. -/
theorem cached_of_play {pageSize : Nat} {scope : Scope} {cached : Cached}
    (played : (new pageSize scope).play moves = some session)
    (held : session.world.store.cached.get? id = some cached) :
    Grounded ((new pageSize scope).history moves) id (World.clampPageSize pageSize) cached.lineage
        session.world.store.scope cached.graph ∧
      (session.world.store.scope = .lineage →
        ∀ row ∈ cached.graph.rows, row.Colored (· ≠ .neutral)) ∧
      Recorded (new pageSize scope) moves := by
  have accounted := (Accounted.new id pageSize scope).of_play played
  have grounded := accounted.stored cached.lineage cached.graph (Store.basis?_of_cached held)
  refine ⟨grounded, fun lineage => ?_, recorded_of_play played⟩
  obtain ⟨pages, -, laid, -⟩ := grounded
  rw [laid, lineage]
  exact Graph.ofPages_lineage_colored cached.lineage pages

/-- Two pages are fetched. The second was asked for below the first. -/
theorem cached_of_play_pagedRun :
    ∃ cached, (sampleAfter (sampleRun ++ pagedRun)).world.store.cached.get? ⟨"r"⟩ = some cached ∧
      cached.graph.rows.map (·.commit) = samplePage "1" ++ samplePage "2" ∧
      (new 1 .lineage).history (sampleRun ++ pagedRun) =
        ([(0, [], samplePage "1"), (2, [samplePage "1"], samplePage "2")].flatMap
          fun (task, above, page) =>
            let request := PageRequest.below task ⟨"r"⟩ 1 sampleLineage .lineage above
            [.asked request, .answered request page, .kept request page]) ∧
      Grounded ((new 1 .lineage).history (sampleRun ++ pagedRun)) ⟨"r"⟩ 1 cached.lineage .lineage
        cached.graph ∧
      (∀ row ∈ cached.graph.rows, row.Colored (· ≠ .neutral)) ∧
      Recorded (new 1 .lineage) (sampleRun ++ pagedRun) := by
  have played : (new 1 .lineage).play (sampleRun ++ pagedRun) =
      some (sampleAfter (sampleRun ++ pagedRun)) := rfl
  obtain ⟨cached, held⟩ :
      ∃ cached, (sampleAfter (sampleRun ++ pagedRun)).world.store.cached.get? ⟨"r"⟩ = some cached :=
    ⟨_, rfl⟩
  obtain ⟨grounded, colored, recorded⟩ := cached_of_play played held
  have commits : cached.graph.rows.map (·.commit) = samplePage "1" ++ samplePage "2" := by
    cases held
    rfl
  exact ⟨cached, held, commits, rfl, grounded, colored rfl, recorded⟩

/-- After the rows of a repository were dropped, what is stored for it later was all asked for
since, and a fetch that had taken its ticket before leaves the store alone. If it is answered,
it still hands out the rows, in particular to whoever called for them. -/
theorem stale_never_stored {pageSize : Nat} {scope : Scope} {later : List Move}
    (played : (new pageSize scope).play moves = some session)
    (moved : session.move move = some next) (event : .dropped id ∈ session.events move)
    (after : next.play later = some final) :
    (∀ cached, final.world.store.cached.get? id = some cached →
      Grounded (next.history later) id (World.clampPageSize pageSize) cached.lineage
        final.world.store.scope cached.graph) ∧
    ∀ task repository stage stage' ticket, repository.id = id →
      session.fetchOf? task = some (repository, stage) → stage.ticket? = some ticket →
      final.fetchOf? task = some (repository, stage') → stage'.ticket? = some ticket →
      (∀ reply last, final.move (.advance task reply) = some last →
        last.world.store = final.world.store) ∧
      ∀ gate lineage page, stage' = .keep gate ticket lineage page →
        (∃ world, stage'.advance task repository final.world none =
          some (world, .done (.ok (ticket.grown lineage page).rows))) ∧
        (final.activities[task]? = some (.fetch repository stage') →
          ∃ last, final.move (.advance task none) = some last ∧
            last.result? task = some (.rows (.ok (ticket.grown lineage page).rows))) := by
  have counted := Counted.of_play played
  have size : next.world.pageSize = World.clampPageSize pageSize :=
    ((Accounted.new id pageSize scope).of_play (play_concat_of_move played moved)).size
  constructor
  · intro cached held
    have accounted := (Accounted.of_dropped counted moved event).of_play after
    rw [List.nil_append, size] at accounted
    exact accounted.stored cached.lineage cached.graph (Store.basis?_of_cached held)
  · intro task repository stage stage' ticket same under noted still here
    subst same
    -- The drop was counted after the ticket was taken, and no count ever goes back.
    have stale : final.world.store.generation repository.id ≠ ticket.generation := by
      have low := counted task repository stage ticket under noted
      have more := (drops_of_dropped moved event).generation
      have most := generation_le_of_play repository.id after
      omega
    constructor
    · intro reply last step
      obtain ⟨_, steps, -⟩ := steps_of_move still step
      exact steps.store_of_stale here stale
    · rintro gate lineage page rfl
      have handed : (Fetch.keep gate ticket lineage page).advance task repository final.world none =
          some (Fetch.finish final.world gate (.ok (ticket.grown lineage page).rows)) :=
        Fetch.advance_keep_of_stale stale lineage page
      refine ⟨⟨_, handed⟩, fun called => ?_⟩
      have stepped : (Activity.fetch repository (.keep gate ticket lineage page)).advance task
          final.world none =
            some ({ final.world with gates := final.world.gates.leave gate },
              .fetch repository (.done (.ok (ticket.grown lineage page).rows))) := by
        rw [Activity.advance, handed]
        rfl
      refine ⟨_, move_of_activity called stepped, ?_⟩
      obtain ⟨inside, -⟩ := List.getElem?_eq_some_iff.mp called
      rw [result?, List.getElem?_set_self inside]
      rfl

/-- The repository is removed while a fetch waits for its first page. -/
def removedRun : List Move :=
  asking 0 sampleRepository sampleLineage ++ [.start (.remove ⟨"r"⟩)]

/-- It is fetched again, and then the first page comes. -/
def refetchedRun : List Move :=
  .advance 1 none :: asking 2 sampleRepository sampleLineage ++ storing 2 (samplePage "2") ++
    [.advance 0 (some (.page (.ok (samplePage "1"))))]

theorem stale_never_stored_removedRun :
    ∃ session next final cached stage ticket,
      (new 1 .lineage).play removedRun = some session ∧
      session.move (.advance 1 none) = some next ∧
      .dropped ⟨"r"⟩ ∈ session.events (.advance 1 none) ∧ next.play refetchedRun = some final ∧
      final.world.store.cached.get? ⟨"r"⟩ = some cached ∧
      Grounded (next.history refetchedRun) ⟨"r"⟩ 1 cached.lineage final.world.store.scope
        cached.graph ∧
      final.fetchOf? 0 = some (sampleRepository, stage) ∧ stage.ticket? = some ticket ∧
      ∀ reply last, final.move (.advance 0 reply) = some last →
        last.world.store = final.world.store := by
  let session := sampleAfter removedRun
  let next := sampleAfter (removedRun ++ [.advance 1 none])
  let final := sampleAfter (removedRun ++ [.advance 1 none] ++ refetchedRun)
  have played : (new 1 .lineage).play removedRun = some session := rfl
  have moved : session.move (.advance 1 none) = some next := rfl
  have event : .dropped ⟨"r"⟩ ∈ session.events (.advance 1 none) := List.mem_singleton_self _
  have later : next.play refetchedRun = some final :=
    (play_append_of_play (play_concat_of_move played moved) refetchedRun).symm.trans rfl
  obtain ⟨cached, held⟩ : ∃ cached, final.world.store.cached.get? ⟨"r"⟩ = some cached := ⟨_, rfl⟩
  obtain ⟨fetched, frozen⟩ := stale_never_stored played moved event later
  have frozen := frozen 0 sampleRepository _ _ _ rfl rfl rfl rfl rfl
  exact ⟨session, next, final, cached, _, _, played, moved, event, later, held, fetched cached held,
    rfl, rfl, frozen.1⟩

/-- Two repositories of one name take turns. The first is removed while a fetch asks for its
lineage, and the second is fetched. Only then the first fetch learns that there is no lineage. -/
def missedRun : List Move :=
  .start (.fetch sampleRepository) :: List.replicate 5 (.advance 0 none) ++
    [.start (.remove ⟨"r"⟩), .advance 1 none, .advance 1 none] ++
    asking 2 { sampleRepository with source := some 1 } sampleLineage ++
    storing 2 (samplePage "1") ++ [.advance 0 (some (.lineage (.ok none)))]

/-- Not all that is stored was asked for since a fetch found no lineage. -/
theorem not_fetched_since_miss :
    ¬ ∀ (moves later : List Move) (session next final : Session) (task gate : Nat)
      (repository : Repository) (ticket : Ticket) (cached : Cached),
      (new 1 .lineage).play moves = some session →
      session.fetchOf? task = some (repository, .drop gate ticket) →
      session.move (.advance task none) = some next → next.play later = some final →
      final.world.store.cached.get? repository.id = some cached →
      Grounded (next.history later) repository.id 1 cached.lineage final.world.store.scope
        cached.graph := by
  intro always
  exact not_grounded_nil (always missedRun [] _ _ _ 0 0 sampleRepository _ _ rfl rfl rfl rfl rfl)

end CommitHistory.Session
