/-
# Calls that are carried out alone

A call without company goes on step by step, and every question is answered at once. So what
comes of it can be worked out: stages that make use of others take their steps for them, and a
fetch that nobody stands in the way of brings one more page.

## Main definitions

* `Process`, `Process.run` — what goes on step by step, and so many steps of it.
* `Gates.IdleAt` — nobody is at the turnstile of a repository.

## Main results

* `Process.run_lift` — steps that are taken for somebody else.
* `Fetch.run_alone`, `Showing.run_alone`, `LoadMore.run_alone` — what comes of stages.
* `Refresh.run_alone`, `MoreLines.run_alone` — what comes of the updates of the tree.
* `perform_of_run` — what comes of a call.
-/

import CommitHistory.Session.Solo
import CommitHistory.Proofs.Session.Queue

namespace CommitHistory.Session

/-! ### Processes -/

/-- What goes on step by step: what it waits to be told, and its next step. -/
structure Process (σ : Type) where
  question? : World → σ → Option Question
  advance : World → σ → Option Reply → Option (World × σ)

namespace Process

variable {σ τ : Type} {process : Process σ} {oracle : Question → Reply}
  {place between last : World × σ} {n k : Nat}

/-- The next step if every question is answered at once. -/
def next (process : Process σ) (oracle : Question → Reply) (place : World × σ) :
    Option (World × σ) :=
  process.advance place.1 place.2 ((process.question? place.1 place.2).map oracle)

/-- So many steps. -/
def run (process : Process σ) (oracle : Question → Reply) : Nat → World × σ → Option (World × σ)
  | 0, place => some place
  | n + 1, place => (process.next oracle place).bind (process.run oracle n)

theorem run_succ (stepped : process.next oracle place = some between)
    (ran : process.run oracle n between = some last) :
    process.run oracle (n + 1) place = some last := by
  rw [run, stepped, Option.bind_some, ran]

theorem run_add (first : process.run oracle n place = some between)
    (second : process.run oracle k between = some last) :
    process.run oracle (n + k) place = some last := by
  induction n generalizing place with
  | zero =>
    rw [Nat.zero_add, Option.some.inj first]
    exact second
  | succ n ih =>
    obtain ⟨middle, stepped, ran⟩ := Option.bind_eq_some_iff.mp first
    rw [Nat.add_right_comm]
    exact run_succ stepped (ih ran)

/-- Steps that are taken for somebody else. A stage that has an end goes on as another one when
it is there, and as itself before. -/
theorem run_lift {outer : Process τ} {into : σ → τ} (wrap : σ → τ)
    (lift : ∀ world stage, outer.next oracle (world, wrap stage) =
      (process.next oracle (world, stage)).map fun next => (next.1, into next.2))
    (goes : ∀ stage, into stage = wrap stage ∨
      ∀ world reply, process.advance world stage reply = none)
    (ran : process.run oracle n place = some last) :
    outer.run oracle n (place.1, into place.2) = some (last.1, into last.2) := by
  induction n generalizing place with
  | zero => rw [run, Option.some.inj ran]
  | succ n ih =>
    obtain ⟨middle, stepped, further⟩ := Option.bind_eq_some_iff.mp ran
    obtain ⟨world, stage⟩ := place
    -- A stage at its end takes no step, so this one is no end.
    rcases goes stage with same | final
    · refine run_succ ?_ (ih further)
      rw [same, lift, stepped]
      rfl
    · rw [next, final] at stepped
      cases stepped

end Process

/-! ### Turnstiles that nobody uses -/

namespace Gates

variable {gates : Gates} {id : RepositoryId}

/-- Nobody is at the turnstile of a repository, if it has one. -/
def IdleAt (gates : Gates) (id : RepositoryId) : Prop :=
  ∀ gate, gates.current.get? id = some gate →
    gate < gates.turnstiles.length ∧ gates.turnstile gate = .free

theorem idleAt_none (id : RepositoryId) : Gates.none.IdleAt id := by
  intro gate found
  cases found

/-- The turnstile that is found is free. -/
theorem IdleAt.turnstile_find (idle : gates.IdleAt id) :
    (gates.find id).1.turnstile (gates.find id).2 = .free := by
  rw [Gates.turnstile_find]
  unfold find
  split
  next gate found => exact (idle gate found).2
  next => simp [turnstile]

theorem IdleAt.find_lt_length (idle : gates.IdleAt id) :
    (gates.find id).2 < (gates.find id).1.turnstiles.length :=
  gates.find_lt_length fun gate found => (idle gate found).1

/-- Whoever comes is inside at once. -/
theorem IdleAt.admits (idle : gates.IdleAt id) (task : Nat) :
    ((gates.find id).1.enter (gates.find id).2 task).admits (gates.find id).2 task = true := by
  rw [Gates.admits, turnstile_enter _ idle.find_lt_length, if_pos rfl, idle.turnstile_find]
  simp [Turnstile.free, Turnstile.enter, Turnstile.admits]

/-- Whoever leaves leaves nobody behind. -/
theorem IdleAt.leave (idle : gates.IdleAt id) (task : Nat) :
    (((gates.find id).1.enter (gates.find id).2 task).leave (gates.find id).2).IdleAt id := by
  intro gate found
  have same : (gates.find id).2 = gate := by
    have current := gates.get?_current_find id id
    rw [if_pos rfl] at current
    exact Option.some.inj (current.symm.trans found)
  subst same
  refine ⟨?_, ?_⟩
  · rw [length_turnstiles_leave, length_turnstiles_enter]
    exact idle.find_lt_length
  · rw [turnstile_leave, if_pos rfl, turnstile_enter _ idle.find_lt_length, if_pos rfl,
      idle.turnstile_find]
    rfl

end Gates

/-! ### Fetching a page -/

variable {oracle : Question → Reply} {task : Nat} {repository : Repository} {source : Nat}
  {world : World}

/-- A fetch as a process. -/
def Fetch.process (task : Nat) (repository : Repository) : Process Fetch where
  question? world := Fetch.question? world repository
  advance := Fetch.advance task repository

/-- What the store keeps after a page was fetched. -/
def Store.withPage (store : Store) (id : RepositoryId) (lineage : Lineage) (page : List Commit) :
    Store :=
  let cached : Cached :=
    { lineage, graph := (Ticket.take store id).grown lineage page, wantsMore := false
      loadingMore := store.isLoadingMore id }
  { store with cached := store.cached.put id cached }

/-- A fetch brings one more page and stores it. -/
theorem Fetch.run_alone (task : Nat) (world : World) (held : repository.source = some source)
    (missing : world.store.fresh? repository.id = none) (idle : world.gates.IdleAt repository.id)
    {lineage : Lineage} {page : List Commit}
    (lineageTold : oracle ⟨source, .lineage⟩ = .lineage (.ok (some lineage)))
    (pageTold : oracle ⟨source,
      (Ticket.take world.store repository.id).pageQuery world.pageSize lineage⟩ =
        .page (.ok page)) :
    ∃ gates notices, gates.IdleAt repository.id ∧
      (Fetch.process task repository).run oracle 8 (world, .lookup) =
        some ({ world with
            gates, notices, store := world.store.withPage repository.id lineage page },
          .done (.ok ((Ticket.take world.store repository.id).grown lineage page).rows)) := by
  set found := world.gates.find repository.id with foundIs
  set ticket := Ticket.take world.store repository.id with ticketIs
  have admitted := idle.admits task
  have valid : ticket.isValid world.store repository.id = true := by
    simp [ticketIs, Ticket.isValid, Ticket.take]
  let entered : World := { world with gates := found.1.enter found.2 task }
  have lookup : (Fetch.process task repository).next oracle (world, .lookup) =
      some (world, .findGate) := by
    simp [Process.next, Fetch.process, Fetch.question?, Fetch.advance, held, missing]
  have find : (Fetch.process task repository).next oracle (world, .findGate) =
      some ({ world with gates := found.1 }, .enter found.2) := by
    simp [Process.next, Fetch.process, Fetch.question?, Fetch.advance, held, foundIs]
  have enter : (Fetch.process task repository).next oracle
      ({ world with gates := found.1 }, .enter found.2) = some (entered, .recheck found.2) := by
    simp [Process.next, Fetch.process, Fetch.question?, Fetch.advance, held, foundIs, entered,
      admitted]
  have recheck : (Fetch.process task repository).next oracle (entered, .recheck found.2) =
      some (entered, .note found.2) := by
    simp [Process.next, Fetch.process, Fetch.question?, Fetch.advance, held, entered, missing]
  have note : (Fetch.process task repository).next oracle (entered, .note found.2) =
      some (entered, .askLineage found.2 ticket) := by
    simp [Process.next, Fetch.process, Fetch.question?, Fetch.advance, held, entered, ticketIs]
  have askLineage : (Fetch.process task repository).next oracle
      (entered, .askLineage found.2 ticket) = some (entered, .askPage found.2 ticket lineage) := by
    simp [Process.next, Fetch.process, Fetch.question?, Fetch.advance, held, lineageTold]
  have askPage : (Fetch.process task repository).next oracle
      (entered, .askPage found.2 ticket lineage) =
        some (entered, .keep found.2 ticket lineage page) := by
    simp [Process.next, Fetch.process, Fetch.question?, Fetch.advance, held, pageTold, entered]
  let loaded : Notice := .loaded repository.id page.length (ticket.grown lineage page).size
  have keep : (Fetch.process task repository).next oracle
      (entered, .keep found.2 ticket lineage page) =
        some ({ world with
            gates := (found.1.enter found.2 task).leave found.2
            notices := world.notices ++ [loaded]
            store := world.store.withPage repository.id lineage page },
          .done (.ok (ticket.grown lineage page).rows)) := by
    let cached : Cached :=
      { lineage, graph := ticket.grown lineage page, wantsMore := false
        loadingMore := world.store.isLoadingMore repository.id }
    have stored : world.store.withPage repository.id lineage page =
        { world.store with cached := world.store.cached.put repository.id cached } := rfl
    simp [Process.next, Fetch.process, Fetch.question?, Fetch.advance, held, entered, valid,
      Fetch.finish, Fetch.store, World.publish, stored, loaded, cached]
  refine ⟨_, world.notices ++ [loaded], idle.leave task, ?_⟩
  exact Process.run_succ lookup (Process.run_succ find (Process.run_succ enter
    (Process.run_succ recheck (Process.run_succ note (Process.run_succ askLineage
      (Process.run_succ askPage (Process.run_succ keep rfl)))))))

/-- A fetch hands out the rows that are there. -/
theorem Fetch.run_fresh (held : repository.source = some source) {rows : List Row}
    (fresh : world.store.fresh? repository.id = some rows) :
    (Fetch.process task repository).run oracle 1 (world, .lookup) =
      some (world, .done (.ok rows)) := by
  have lookup : (Fetch.process task repository).next oracle (world, .lookup) =
      some (world, .done (.ok rows)) := by
    simp [Process.next, Fetch.process, Fetch.question?, Fetch.advance, held, fresh]
  exact Process.run_succ lookup rfl

/-! ### Showing the lines -/

variable {world' : World} {n : Nat}

/-- The search for the lines as a process. -/
def Children.process (task : Nat) : Process Children where
  question? := Children.question?
  advance := Children.advance task

/-- Showing the lines as a process. -/
def Showing.process (task : Nat) : Process Showing where
  question? := Showing.question?
  advance := Showing.advance task

theorem Children.run_ofFetch {place last : World × Fetch}
    (ran : (Fetch.process task repository).run oracle n place = some last) :
    (Children.process task).run oracle n (place.1, ofFetch repository place.2) =
      some (last.1, ofFetch repository last.2) := by
  refine Process.run_lift (.fetching repository) (fun _ _ => rfl) (fun stage => ?_) ran
  cases stage with
  | done => exact Or.inr fun _ _ => rfl
  | _ => exact Or.inl rfl

theorem Showing.run_ofChildren {place last : World × Children}
    (ran : (Children.process task).run oracle n place = some last) :
    (Showing.process task).run oracle n (place.1, ofChildren place.2) =
      some (last.1, ofChildren last.2) := by
  refine Process.run_lift .reading (fun _ _ => rfl) (fun stage => ?_) ran
  cases stage with
  | done => exact Or.inr fun _ _ => rfl
  | _ => exact Or.inl rfl

/-- The world once lines are shown. -/
def World.showing (world : World) (lines : List TreeLine) : World :=
  { world with display := { world.display with lines, fault := none } }

/-- The rows that a fetch hands out are shown. -/
theorem Showing.run_alone (selected : world.store.selectedRepository? = some repository)
    {rows : List Row}
    (fetched : (Fetch.process task repository).run oracle n (world, .lookup) =
      some (world', .done (.ok rows))) :
    (Showing.process task).run oracle (n + 3) (world, .start) =
      some (world'.showing (TreeLine.ofRows repository.id rows), .done) := by
  have select : (Showing.process task).next oracle (world, .start) =
      some (world, .reading (.fetching repository .lookup)) := by
    simp [Process.next, Showing.process, Showing.start, Showing.question?, Showing.advance,
      Children.question?, Children.advance, selected, ofChildren]
  have search : (Showing.process task).run oracle n
      (world, .reading (.fetching repository .lookup)) =
        some (world', .putLines (TreeLine.ofRows repository.id rows)) :=
    Showing.run_ofChildren (Children.run_ofFetch fetched)
  refine Process.run_succ select (Process.run_add search ?_)
  rfl

/-! ### Refreshing -/

/-- The tree that shows lines while nothing is under way. -/
def Display.resting (lines : List TreeLine) : Display := { Display.blank with lines }

/-- An update as a process. -/
def Update.process (task : Nat) : Process Update where
  question? := Update.question?
  advance := Update.advance task

/-- A request for a refresh as a process. -/
def Refresh.process (task : Nat) : Process Refresh where
  question? := Refresh.question?
  advance := Refresh.advance task

theorem Update.run_ofShowing {place last : World × Showing}
    (ran : (Showing.process task).run oracle n place = some last) :
    (Update.process task).run oracle n (place.1, ofShowing place.2) =
      some (last.1, ofShowing last.2) := by
  refine Process.run_lift .showing (fun _ _ => rfl) (fun stage => ?_) ran
  cases stage with
  | done => exact Or.inr fun _ _ => rfl
  | _ => exact Or.inl rfl

theorem Refresh.run_ofUpdate (runs : Nat) {place last : World × Update}
    (ran : (Update.process task).run oracle n place = some last) :
    (Refresh.process task).run oracle n (place.1, ofUpdate runs place.2) =
      some (last.1, ofUpdate runs last.2) := by
  refine Process.run_lift (.updating runs) (fun _ _ => rfl) (fun stage => ?_) ran
  cases stage with
  | done => exact Or.inr fun _ _ => rfl
  | _ => exact Or.inl rfl

/-- The world while a task refreshes the tree. -/
def World.refreshing (world : World) (task : Nat) : World :=
  world.redisplay fun display =>
    { display with isRefreshing := true, turn := { holder := some task, waiting := [] } }

/-- A refresh shows the rows that a fetch hands out, in one update. -/
theorem Refresh.run_alone {lines : List TreeLine} (rest : world.display = .resting lines)
    (selected : world.store.selectedRepository? = some repository) {rows : List Row}
    {store : Store} {gates : Gates} {notices : List Notice}
    (fetched : (Fetch.process task repository).run oracle n (world.refreshing task, .lookup) =
      some ({ world.refreshing task with store, gates, notices }, .done (.ok rows))) :
    (Refresh.process task).run oracle (n + 12) (world, .start false) =
      some ({ world with
          store, gates, notices, display := .resting (TreeLine.ofRows repository.id rows) },
        .done 1) := by
  obtain ⟨pageSize, store', gates', notices', display⟩ := world
  obtain rfl : display = .resting lines := rest
  let world : World := ⟨pageSize, store', gates', notices', .resting lines⟩
  let marked : World := world.redisplay fun display => { display with isRefreshing := true }
  have begun : (Refresh.process task).run oracle 3 (world, .start false) =
      some (marked, .updating 0 .enter) := rfl
  have enter : (Update.process task).next oracle (marked, .enter) =
      some (world.refreshing task, .begin) := by
    have admitted : (marked.enterTurn task).hasTurn task = true := by
      simp [World.hasTurn, World.enterTurn, World.redisplay, Turnstile.enter, Turnstile.admits,
        Display.resting, Display.blank, Turnstile.free, marked, world]
    simp [Process.next, Update.process, Update.question?, Update.advance, admitted]
    rfl
  have prepared : (Update.process task).next oracle (world.refreshing task, .begin) =
      some (world.refreshing task, .showing .start) := rfl
  have selected : (world.refreshing task).store.selectedRepository? = some repository := selected
  let shown : World := World.showing { world.refreshing task with store, gates, notices }
    (TreeLine.ofRows repository.id rows)
  have showing : (Update.process task).run oracle (n + 3)
      (world.refreshing task, .showing .start) = some (shown, .leave) :=
    Update.run_ofShowing (Showing.run_alone selected fetched)
  have leave : (Update.process task).run oracle 1 (shown, .leave) =
      some (shown.leaveTurn, .done) := rfl
  have update : (Refresh.process task).run oracle (n + 3 + 1 + 1 + 1)
      (marked, .updating 0 .enter) = some (shown.leaveTurn, .takePending 1) :=
    Refresh.run_ofUpdate 0 (Process.run_succ enter
      (Process.run_succ prepared (Process.run_add showing leave)))
  have stopped : (Refresh.process task).run oracle 3 (shown.leaveTurn, .takePending 1) =
      some ({ world with
          store, gates, notices, display := .resting (TreeLine.ofRows repository.id rows) },
        .done 1) := rfl
  have total : n + 12 = 3 + ((n + 3 + 1 + 1 + 1) + 3) := by omega
  rw [total]
  exact Process.run_add begun (Process.run_add update stopped)

/-! ### Appending a page -/

/-- A request for more as a process. -/
def LoadMore.process (task : Nat) (repository : Repository) : Process LoadMore where
  question? world := LoadMore.question? world repository
  advance := LoadMore.advance task repository

/-- A request for more lines as a process. -/
def MoreLines.process (task : Nat) : Process MoreLines where
  question? := MoreLines.question?
  advance := MoreLines.advance task

theorem LoadMore.run_ofFetch {place last : World × Fetch}
    (ran : (Fetch.process task repository).run oracle n place = some last) :
    (LoadMore.process task repository).run oracle n (place.1, ofFetch place.2) =
      some (last.1, ofFetch last.2) := by
  refine Process.run_lift .fetching (fun _ _ => rfl) (fun stage => ?_) ran
  cases stage with
  | done => exact Or.inr fun _ _ => rfl
  | _ => exact Or.inl rfl

theorem MoreLines.run_ofLoadMore {place last : World × LoadMore}
    (ran : (LoadMore.process task repository).run oracle n place = some last) :
    (MoreLines.process task).run oracle n (place.1, ofLoadMore repository place.2) =
      some (last.1, ofLoadMore repository last.2) := by
  refine Process.run_lift (.loading repository) (fun _ _ => rfl) (fun stage => ?_) ran
  cases stage with
  | done => exact Or.inr fun _ _ => rfl
  | _ => exact Or.inl rfl

theorem MoreLines.run_ofShowing {place last : World × Showing}
    (ran : (Showing.process task).run oracle n place = some last) :
    (MoreLines.process task).run oracle n (place.1, ofShowing place.2) =
      some (last.1, ofShowing last.2) := by
  refine Process.run_lift .showing (fun _ _ => rfl) (fun stage => ?_) ran
  cases stage with
  | done => exact Or.inr fun _ _ => rfl
  | _ => exact Or.inl rfl

namespace Store

variable {store : Store} {id : RepositoryId}

theorem get?_withPage (lineage : Lineage) (page : List Commit) :
    (store.withPage id lineage page).cached.get? id = some
      { lineage, graph := (Ticket.take store id).grown lineage page, wantsMore := false
        loadingMore := store.isLoadingMore id } := by
  simp [withPage]

end Store

/-- A request for more appends a page to the rows that are there. -/
theorem LoadMore.run_alone (task : Nat) (world : World) (held : repository.source = some source) {cached : Cached}
    (there : world.store.cached.get? repository.id = some cached)
    (unmarked : cached.loadingMore = false) (idle : world.gates.IdleAt repository.id)
    {lineage : Lineage} {page : List Commit}
    (lineageTold : oracle ⟨source, .lineage⟩ = .lineage (.ok (some lineage)))
    (pageTold : oracle ⟨source,
      (Ticket.take world.store repository.id).pageQuery world.pageSize lineage⟩ =
        .page (.ok page)) :
    ∃ gates notices table, gates.IdleAt repository.id ∧
      table.get? repository.id = some
        { lineage, graph := (Ticket.take world.store repository.id).grown lineage page
          wantsMore := false, loadingMore := false } ∧
      (LoadMore.process task repository).run oracle 10 (world, .guard) =
        some ({ world with gates, notices, store := { world.store with cached := table } },
          .done (.ok true)) := by
  let marked : World := { world with
    store := world.store.alter repository.id fun cached =>
      { cached with wantsMore := true, loadingMore := true } }
  -- The marks make the fetch ask for a page; what it notes of the rows is as before.
  have guard : (LoadMore.process task repository).next oracle (world, .guard) =
      some (marked, .fetching .lookup) := by
    simp [Process.next, LoadMore.process, LoadMore.question?, LoadMore.advance, there, unmarked,
      marked]
  have missing : marked.store.fresh? repository.id = none := by
    simp [marked, Store.fresh?, Store.alter_of_get? there]
  have same : Ticket.take marked.store repository.id = Ticket.take world.store repository.id :=
    Store.take_alter fun _ => ⟨rfl, rfl⟩
  rw [← same] at pageTold
  obtain ⟨gates, notices, idle, fetched⟩ :=
    Fetch.run_alone task marked held missing idle lineageTold pageTold
  let paged := marked.store.withPage repository.id lineage page
  let last : Cached :=
    { lineage, graph := (Ticket.take marked.store repository.id).grown lineage page
      wantsMore := false, loadingMore := false }
  have kept : paged.alter repository.id (fun cached => { cached with loadingMore := false }) =
      { world.store with cached := paged.cached.put repository.id last } := by
    rw [Store.alter_of_get? (Store.get?_withPage lineage page)]
    simp [paged, Store.withPage, marked, Store.alter_of_get? there, last]
  have fetching : (LoadMore.process task repository).run oracle 8 (marked, .fetching .lookup) =
      some ({ marked with gates, notices, store := paged }, .unmark (.ok ())) :=
    LoadMore.run_ofFetch fetched
  have unmark : (LoadMore.process task repository).next oracle
      ({ marked with gates, notices, store := paged }, .unmark (.ok ())) =
        some ({ world with gates, notices, store :=
          { world.store with cached := paged.cached.put repository.id last } },
        .done (.ok true)) := by
    simp [Process.next, LoadMore.process, LoadMore.question?, LoadMore.advance, kept, marked]
    rfl
  refine ⟨gates, notices, paged.cached.put repository.id last, idle, ?_, ?_⟩
  · simp [last, same]
  · have unmarked := Process.run_succ (n := 0) unmark rfl
    exact Process.run_succ guard (Process.run_add fetching unmarked)

/-- The world while a task appends lines to the tree. -/
def World.appending (world : World) (task : Nat) : World :=
  world.redisplay fun display =>
    { display with isLoadingMore := true, turn := { holder := some task, waiting := [] } }

/-- A request for more lines appends a page to the rows that are there and shows all of them. -/
theorem MoreLines.run_alone (task : Nat) {lines : List TreeLine} (rest : world.display = .resting lines)
    (selected : world.store.selectedRepository? = some repository)
    (held : repository.source = some source) {cached : Cached}
    (there : world.store.cached.get? repository.id = some cached)
    (unmarked : cached.loadingMore = false) (idle : world.gates.IdleAt repository.id)
    {lineage : Lineage} {page : List Commit}
    (lineageTold : oracle ⟨source, .lineage⟩ = .lineage (.ok (some lineage)))
    (pageTold : oracle ⟨source,
      (Ticket.take world.store repository.id).pageQuery world.pageSize lineage⟩ =
        .page (.ok page)) :
    ∃ gates notices table, gates.IdleAt repository.id ∧
      table.get? repository.id = some
        { lineage, graph := (Ticket.take world.store repository.id).grown lineage page
          wantsMore := false, loadingMore := false } ∧
      (MoreLines.process task).run oracle 19 (world, .select) =
        some ({ world with
            gates, notices, store := { world.store with cached := table }
            display := .resting (TreeLine.ofRows repository.id
              ((Ticket.take world.store repository.id).grown lineage page).rows) },
          .done (.ok true)) := by
  obtain ⟨pageSize, store, gates, notices, display⟩ := world
  obtain rfl : display = .resting lines := rest
  let world : World := ⟨pageSize, store, gates, notices, .resting lines⟩
  let marked : World := world.redisplay fun display => { display with isLoadingMore := true }
  have select : (MoreLines.process task).next oracle (world, .select) =
      some (world, .claim repository) := by
    simp only [Process.next, MoreLines.process, MoreLines.question?, MoreLines.advance,
      Option.map_none, world]
    rw [selected]
  have claim : (MoreLines.process task).next oracle (world, .claim repository) =
      some (marked, .enter repository) := rfl
  have enter : (MoreLines.process task).next oracle (marked, .enter repository) =
      some (world.appending task, .loading repository .guard) := by
    have admitted : (marked.enterTurn task).hasTurn task = true := by
      simp [World.hasTurn, World.enterTurn, World.redisplay, Turnstile.enter, Turnstile.admits,
        Display.resting, Display.blank, Turnstile.free, marked, world]
    simp [Process.next, MoreLines.process, MoreLines.question?, MoreLines.advance, admitted]
    rfl
  obtain ⟨gates, notices, table, idle, kept, loaded⟩ :=
    LoadMore.run_alone task (world.appending task) held there unmarked idle lineageTold pageTold
  set graph := (Ticket.take store repository.id).grown lineage page
  let paged : World := { world.appending task with
    gates, notices, store := { store with cached := table } }
  have loading : (MoreLines.process task).run oracle 10
      (world.appending task, .loading repository .guard) = some (paged, .showing .start) :=
    MoreLines.run_ofLoadMore loaded
  -- The page is there by now, so the rows are shown without another question.
  have fresh : paged.store.fresh? repository.id = some graph.rows := by
    have cached : paged.store.cached = table := rfl
    rw [Store.fresh?, cached, kept]
    rfl
  have selected : paged.store.selectedRepository? = some repository := selected
  have showing : (MoreLines.process task).run oracle (1 + 3) (paged, .showing .start) =
      some (paged.showing (TreeLine.ofRows repository.id graph.rows), .leave (.ok true)) :=
    MoreLines.run_ofShowing (Showing.run_alone selected (Fetch.run_fresh held fresh))
  have ended : (MoreLines.process task).run oracle 2
      (paged.showing (TreeLine.ofRows repository.id graph.rows), .leave (.ok true)) =
        some ({ world with
            gates, notices, store := { store with cached := table }
            display := .resting (TreeLine.ofRows repository.id graph.rows) },
          .done (.ok true)) := rfl
  refine ⟨gates, notices, table, idle, kept, ?_⟩
  exact Process.run_succ select (Process.run_succ claim (Process.run_succ enter
    (Process.run_add loading (Process.run_add showing ended))))

/-! ### Calls to their end -/

/-- An activity as a process. -/
def Activity.process (task : Nat) : Process Activity where
  question? := Activity.question?
  advance := Activity.advance task

theorem Activity.run_refresh {place last : World × Refresh}
    (ran : (Refresh.process task).run oracle n place = some last) :
    (Activity.process task).run oracle n (place.1, .refresh place.2) =
      some (last.1, .refresh last.2) :=
  Process.run_lift .refresh (fun _ _ => rfl) (fun _ => Or.inl rfl) ran

theorem Activity.run_moreLines {place last : World × MoreLines}
    (ran : (MoreLines.process task).run oracle n place = some last) :
    (Activity.process task).run oracle n (place.1, .moreLines place.2) =
      some (last.1, .moreLines last.2) :=
  Process.run_lift .moreLines (fun _ _ => rfl) (fun _ => Or.inl rfl) ran

/-- An activity that is over takes no step. -/
theorem Activity.advance_of_result? {activity : Activity} {result : Result}
    (finished : activity.result? = some result) (task : Nat) (world : World) (reply : Option Reply) :
    activity.advance task world reply = none := by
  unfold result? at finished
  split at finished
  all_goals first | rfl | cases finished

variable {m : Type → Type} [Monad m] [LawfulMonad m] {last : World} {activity next : Activity}
  {result : Result}

/-- One step of a call. -/
theorem finish_succ (others : List Activity)
    (stepped : (Activity.process others.length).next oracle (world, activity) =
      some (world', next)) (bound : Nat) :
    finish (fun question => (pure (oracle question) : m Reply)) others.length (bound + 1)
        { world, activities := others ++ [activity] } =
      finish (fun question => pure (oracle question)) others.length bound
        { world := world', activities := others ++ [next] } := by
  simp only [Process.next, Activity.process] at stepped
  have under : activity.result? = none := by
    by_contra ended
    obtain ⟨result, finished⟩ := Option.ne_none_iff_exists'.mp ended
    rw [Activity.advance_of_result? finished] at stepped
    cases stepped
  cases asked : activity.question? world with
  | none =>
    rw [asked, Option.map_none] at stepped
    simp [finish, Session.result?, under, Session.question?, asked, Session.advance, stepped]
  | some question =>
    rw [asked, Option.map_some] at stepped
    simp [finish, Session.result?, under, Session.question?, asked, Session.advance, stepped]

/-- A call goes on to its end if the bound allows as many steps as it takes. -/
theorem finish_of_run (others : List Activity)
    (ran : (Activity.process others.length).run oracle n (world, activity) = some (last, next))
    (finished : next.result? = some result) {bound : Nat} (enough : n < bound) :
    finish (fun question => (pure (oracle question) : m Reply)) others.length bound
        { world, activities := others ++ [activity] } =
      pure ({ world := last, activities := others ++ [next] }, some result) := by
  obtain ⟨bound, rfl⟩ := Nat.exists_eq_add_one_of_ne_zero (Nat.ne_zero_of_lt enough)
  induction n generalizing world activity bound with
  | zero =>
    obtain ⟨rfl, rfl⟩ := Prod.mk.inj (Option.some.inj ran)
    simp [finish, Session.result?, finished]
  | succ n ih =>
    obtain ⟨⟨world', between⟩, stepped, further⟩ := Option.bind_eq_some_iff.mp ran
    rw [finish_succ others stepped]
    obtain ⟨bound, rfl⟩ := Nat.exists_eq_add_one_of_ne_zero
      (Nat.ne_zero_of_lt (Nat.lt_of_succ_lt_succ enough))
    exact ih further bound (Nat.lt_of_succ_lt_succ enough)

/-- What comes of a call whose steps are known. -/
theorem perform_of_run {session : Session} {call : Call}
    (ran : (Activity.process session.activities.length).run oracle n
      (session.world, call.begin) = some (last, next))
    (finished : next.result? = some result) (enough : n < patience) :
    session.perform (fun question => (pure (oracle question) : m Reply)) call =
      pure ({ world := last, activities := session.activities ++ [next] }, some result) :=
  finish_of_run session.activities ran finished enough

end CommitHistory.Session
