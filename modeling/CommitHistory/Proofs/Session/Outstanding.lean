/-
# One request for more at a time

A request for more passes a guard, which is a mark of the rows of its repository, and whoever
comes later is turned away while the mark is there. But the mark goes with the rows when they
are dropped, and rows that are stored anew come without it, although the request may still be
under way. Then the next one passes as well. So the runs in which two requests never get past
the guard together are exactly those in which no page is kept for a repository without rows
while a request is outstanding.

## Main definitions

* `Store.guard?` — whether the guard of a repository turns requests away.
* `Session.Outstanding` — a request has passed the guard and is not over.
* `Session.Undisturbed` — no rows come anew while a request is outstanding.

## Main results

* `Session.GuardShift.of_move` — what a move does to the guard and to those who have passed it.
* `Session.Barred.of_play` — in undisturbed runs the guard is up while a request is outstanding.
* `Session.oneAtATime_iff_undisturbed` — outstanding requests are alone exactly in such runs.
* `Session.not_oneAtATime` — not every run is undisturbed.
-/

import CommitHistory.Proofs.Session.Request
import CommitHistory.Proofs.Session.SingleFlight

namespace CommitHistory.Session

/-- Whether the guard of a repository turns requests for more away; without rows there is none. -/
def Store.guard? (store : Store) (id : RepositoryId) : Option Bool :=
  (store.cached.get? id).map Cached.loadingMore

/-- A request for more has passed the guard and is not over. -/
def LoadMore.isOutstanding : LoadMore → Bool
  | .fetching _ | .unmark _ => true
  | .guard | .done _ => false

/-- A request for more of a repository has passed the guard and is not over. -/
def Outstanding (id : RepositoryId) (session : Session) (task : Nat) : Prop :=
  ∃ repository stage, session.requestOf? task = some (repository, stage) ∧ repository.id = id ∧
    stage.isOutstanding = true

/-- At most one request for more of a repository is outstanding. -/
def OneAtATime (id : RepositoryId) (session : Session) : Prop :=
  ∀ first second, session.Outstanding id first → session.Outstanding id second → first = second

/-- No page is kept for a repository without rows while a request for more is outstanding. -/
def Undisturbed (id : RepositoryId) : Session → List Move → Prop :=
  Throughout fun session move => ∀ request page, .kept request page ∈ session.events move →
    request.repository = id → session.world.store.cached.get? id = none →
    ∀ task, ¬ session.Outstanding id task

variable {session next final : Session} {move : Move} {moves : List Move} {id : RepositoryId}
  {task : Nat} {repository : Repository}

/-! ### Outstanding requests -/

theorem outstanding_iff {stage : LoadMore}
    (under : session.requestOf? task = some (repository, stage)) :
    session.Outstanding id task ↔ repository.id = id ∧ stage.isOutstanding = true := by
  constructor
  · rintro ⟨other, stage', under', same, passed⟩
    cases under.symm.trans under'
    exact ⟨same, passed⟩
  · rintro ⟨same, passed⟩
    exact ⟨repository, stage, under, same, passed⟩

theorem not_outstanding_of_none (none : session.requestOf? task = none) :
    ¬ session.Outstanding id task := by
  rintro ⟨repository, stage, under, -, -⟩
  cases none.symm.trans under

theorem outstanding_iff_of_underWay {stage : LoadMore}
    (now : session.requestOf? task = stage.underWay? repository) :
    session.Outstanding id task ↔ repository.id = id ∧ stage.isOutstanding = true := by
  cases stage with
  | done result => exact iff_of_false (not_outstanding_of_none now) fun passed => nomatch passed.2
  | _ => exact outstanding_iff now

theorem outstanding_congr (same : next.requestOf? task = session.requestOf? task) :
    next.Outstanding id task ↔ session.Outstanding id task := by
  rw [Outstanding, same, ← Outstanding]

theorem LoadMore.isOutstanding_ofFetch (fetch : Fetch) : (ofFetch fetch).isOutstanding = true := by
  cases fetch <;> rfl

/-- Whoever comes to a guard that is not open is turned away. -/
theorem LoadMore.advance_guard_of_closed {world : World}
    (closed : world.store.guard? repository.id ≠ some false) :
    guard.advance task repository world none = some (world, .done (.ok false)) := by
  rw [Store.guard?] at closed
  cases held : world.store.cached.get? repository.id with
  | none => rw [advance, held]
  | some cached =>
    rw [held, Option.map_some, ne_eq, Option.some.injEq, Bool.not_eq_false] at closed
    rw [advance, held]
    exact if_pos closed

/-- Whoever comes to an open guard passes it. -/
theorem LoadMore.advance_guard_of_open {world : World}
    (isOpen : world.store.guard? repository.id = some false) :
    guard.advance task repository world none =
      some ({ world with store := (Deed.mark repository.id).store world.store },
        .fetching .lookup) := by
  obtain ⟨cached, held, unmarked⟩ := Option.map_eq_some_iff.mp isOpen
  rw [advance, held]
  exact if_neg (by simp [unmarked])

/-! ### What a move does to the guard -/

/-- A step of a fetch leaves the guard of a repository as it is, drops it with the rows, or comes
with rows where none were and with a guard that is open. -/
theorem Fetch.Steps.guard? {world world' : World} {stage stage' : Fetch} {reply : Option Reply}
    (steps : Fetch.Steps task repository world stage reply world' stage') (id : RepositoryId) :
    world'.store.guard? id = world.store.guard? id ∨ world'.store.guard? id = none ∨
      world.store.cached.get? id = none ∧ world'.store.guard? id = some false ∧
        ∃ request page, .kept request page ∈ stage.events task repository world reply ∧
          request.repository = id := by
  cases steps with
  | drop current =>
    by_cases same : id = repository.id
    · exact Or.inr (Or.inl (by simp [Store.guard?, same]))
    · exact Or.inl (by simp [Store.guard?, same])
  | @keep gate ticket lineage page valid =>
    by_cases same : id = repository.id
    · subst same
      have put : (finish (store world repository.id lineage (ticket.grown lineage page)
          page.length) gate (.ok (ticket.grown lineage page).rows)).1.store.guard? repository.id =
            some ((world.store.guard? repository.id).getD false) := by
        simp [finish, store, World.publish, Store.guard?, Store.isLoadingMore]
      cases held : world.store.cached.get? repository.id with
      | none =>
        refine Or.inr (Or.inr
          ⟨rfl, ?_, ticket.request task repository.id world.pageSize lineage, page, ?_, rfl⟩)
        · rw [put, Store.guard?, held]
          rfl
        · rw [events, if_pos valid]
          exact List.mem_singleton_self _
      | some cached =>
        refine Or.inl (put.trans ?_)
        rw [Store.guard?, held]
        rfl
    · exact Or.inl (by simp [finish, store, World.publish, Store.guard?, same])
  | _ => exact Or.inl rfl

/-- What is done to the marks of one repository leaves the guards of others as they are. -/
theorem Store.guard?_alter_of_ne (store : Store) {id other : RepositoryId} (different : other ≠ id)
    (change : Cached → Cached) : (store.alter other change).guard? id = store.guard? id := by
  rw [guard?, get?_cached_alter, if_neg (Ne.symm different), ← guard?]

/-- A deed of nobody's request leaves the guard of a repository as it is, or drops it with the
rows. -/
theorem Deed.guard?_store {deed : Deed} (unmarked : deed.isMark = false) (before : Session.Store)
    (id : RepositoryId) :
    (deed.store before).guard? id = before.guard? id ∨ (deed.store before).guard? id = none := by
  rw [Store.guard?, get?_cached_store]
  split
  next => exact Or.inr rfl
  next =>
    rw [Option.map_map]
    exact Or.inl (congrArg (fun mark => Option.map mark _)
      (funext (loadingMore_remark unmarked id)))

/-- A move that is no mark leaves the guard as it is, drops it with the rows, or stores rows where
none were, with a guard that is open. -/
theorem guard?_of_move (moved : session.move move = some next)
    (unmarked : (session.deedOf move).isMark = false) (id : RepositoryId) :
    next.world.store.guard? id = session.world.store.guard? id ∨
      next.world.store.guard? id = none ∨
      session.world.store.cached.get? id = none ∧ next.world.store.guard? id = some false ∧
        ∃ request page, .kept request page ∈ session.events move ∧ request.repository = id := by
  cases Shift.of_move moved with
  | deed _ _ store _ _ =>
    obtain same | dropped := Deed.guard?_store unmarked session.world.store id
    · exact Or.inl (store ▸ same)
    · exact Or.inr (Or.inl (store ▸ dropped))
  | fetch under advanced world _ _ =>
    subst world
    rw [events_of_fetch under]
    exact (Fetch.Steps.of_advance advanced).guard? id

/-- What a move does to the guard of a repository and to the requests that have passed it. -/
inductive GuardShift (id : RepositoryId) (session : Session) (move : Move) (next : Session) : Prop
  /-- A request passes the guard. -/
  | pass (isOpen : session.world.store.guard? id = some false)
      (closed : next.world.store.guard? id = some true)
      (others : ∀ task, task ≠ session.mover move →
        (next.Outstanding id task ↔ session.Outstanding id task))
      (passed : next.Outstanding id (session.mover move))
  /-- A request takes the mark away and is over. -/
  | release (held : session.Outstanding id (session.mover move))
      (ended : ¬ next.Outstanding id (session.mover move))
      (others : ∀ task, task ≠ session.mover move →
        (next.Outstanding id task ↔ session.Outstanding id task))
      (silent : session.moved? move = none)
      (opened : next.world.store.guard? id ≠ some true)
  /-- Rows are stored where none were. -/
  | renew (bare : session.world.store.cached.get? id = none)
      (isOpen : next.world.store.guard? id = some false)
      (kept : ∃ request page, .kept request page ∈ session.events move ∧ request.repository = id)
      (same : ∀ task, next.Outstanding id task ↔ session.Outstanding id task)
  | stay (guard : next.world.store.guard? id = session.world.store.guard? id ∨
        next.world.store.guard? id = none)
      (same : ∀ task, next.Outstanding id task ↔ session.Outstanding id task)

theorem GuardShift.of_unmarked (moved : session.move move = some next)
    (unmarked : (session.deedOf move).isMark = false)
    (same : ∀ task, next.Outstanding id task ↔ session.Outstanding id task) :
    GuardShift id session move next := by
  obtain guard | guard | ⟨bare, isOpen, kept⟩ := guard?_of_move moved unmarked id
  · exact .stay (Or.inl guard) same
  · exact .stay (Or.inr guard) same
  · exact .renew bare isOpen kept same

theorem GuardShift.of_move (id : RepositoryId) (moved : session.move move = some next) :
    GuardShift id session move next := by
  cases RequestShift.of_move moved with
  | other requests unmarked =>
    -- A request that has just begun has not passed the guard.
    refine .of_unmarked moved unmarked fun task => ?_
    obtain same | ⟨before, repository, now⟩ := requests task
    · exact outstanding_congr same
    · refine iff_of_false (fun passed => ?_) (not_outstanding_of_none before)
      cases ((outstanding_iff now).mp passed).2
  | @request task reply repository stage stage' mover under advanced mine others =>
    subst mover
    have elsewhere (other : Nat) (different : other ≠ session.mover (.advance task reply)) :
        next.Outstanding id other ↔ session.Outstanding id other :=
      outstanding_congr (others other different)
    have everywhere (same : repository.id = id → stage'.isOutstanding = stage.isOutstanding)
        (other : Nat) : next.Outstanding id other ↔ session.Outstanding id other := by
      by_cases self : other = task
      · subst self
        rw [outstanding_iff_of_underWay mine, outstanding_iff under]
        exact and_congr_right fun own => by rw [same own]
      · exact elsewhere other self
    have deed := deedOf_of_requestOf? under reply
    cases stage with
    | guard =>
      cases reply with
      | some _ => cases advanced
      | none =>
        by_cases isOpen : session.world.store.guard? repository.id = some false
        · rw [LoadMore.advance_guard_of_open isOpen] at advanced
          obtain ⟨world, rfl⟩ := Prod.mk.inj (Option.some.inj advanced)
          by_cases same : repository.id = id
          · subst same
            refine .pass isOpen ?_ elsewhere ?_
            · obtain ⟨cached, held, -⟩ := Option.map_eq_some_iff.mp isOpen
              rw [← world, Store.guard?, Deed.get?_cached_store, held]
              simp [Deed.drops, Deed.remark]
            · exact (outstanding_iff_of_underWay mine).mpr ⟨rfl, rfl⟩
          · refine .stay (Or.inl ?_) (everywhere fun own => absurd own same)
            exact world ▸ Store.guard?_alter_of_ne _ same _
        · rw [LoadMore.advance_guard_of_closed isOpen] at advanced
          obtain ⟨world, rfl⟩ := Prod.mk.inj (Option.some.inj advanced)
          exact .stay (Or.inl (by rw [world])) (everywhere fun _ => rfl)
    | fetching fetch =>
      obtain ⟨fetch', -, rfl⟩ := exists_of_map_eq_some advanced
      exact .of_unmarked moved (by rw [deed]; rfl)
        (everywhere fun _ => LoadMore.isOutstanding_ofFetch fetch')
    | unmark result =>
      cases reply with
      | some _ => cases advanced
      | none =>
        obtain ⟨world, rfl⟩ := Prod.mk.inj (Option.some.inj advanced)
        by_cases same : repository.id = id
        · have ended : ¬ next.Outstanding id task := by
            rw [outstanding_iff_of_underWay mine]
            rintro ⟨-, passed⟩
            cases passed
          refine .release ((outstanding_iff under).mpr ⟨same, rfl⟩) ended elsewhere ?_ ?_
          · exact fetchOf?_of_requestOf? under
          · subst same
            rw [← world, Store.guard?, Store.get?_cached_alter, if_pos rfl, Option.map_map]
            intro closed
            obtain ⟨_, -, marked⟩ := Option.map_eq_some_iff.mp closed
            cases marked
        · refine .stay (Or.inl ?_) (everywhere fun own => absurd own same)
          exact world ▸ Store.guard?_alter_of_ne _ same _
    | done result => cases advanced

/-! ### Undisturbed runs -/

/-- Requests for more are kept apart: at most one is outstanding, and meanwhile the guard turns
others away. -/
structure Barred (id : RepositoryId) (session : Session) : Prop where
  single : session.OneAtATime id
  closed : ∀ task, session.Outstanding id task → session.world.store.guard? id ≠ some false

/-- A move keeps requests apart unless it stores rows behind the back of one. -/
theorem Barred.of_move (barred : session.Barred id) (moved : session.move move = some next)
    (undisturbed : ∀ request page, .kept request page ∈ session.events move →
      request.repository = id → session.world.store.cached.get? id = none →
      ∀ task, ¬ session.Outstanding id task) : next.Barred id := by
  cases GuardShift.of_move id moved with
  | pass isOpen closed others =>
    -- The guard was open, so nobody had passed it.
    have alone (task : Nat) (passed : next.Outstanding id task) : task = session.mover move := by
      by_contra other
      exact barred.closed task ((others task other).mp passed) isOpen
    refine ⟨fun first second one two => ?_, fun task _ => ?_⟩
    · rw [alone first one, alone second two]
    · rw [closed]
      exact fun opened => nomatch opened
  | release held ended others _ =>
    -- Whoever is over was the only one.
    have nobody (task : Nat) (passed : next.Outstanding id task) : False := by
      by_cases same : task = session.mover move
      · exact ended (same ▸ passed)
      · exact same (barred.single task _ ((others task same).mp passed) held)
    exact ⟨fun first _ one _ => (nobody first one).elim,
      fun task passed => (nobody task passed).elim⟩
  | renew bare isOpen kept same =>
    obtain ⟨request, page, event, own⟩ := kept
    have nobody := undisturbed request page event own bare
    exact ⟨fun first _ one _ => absurd ((same first).mp one) (nobody first),
      fun task passed => absurd ((same task).mp passed) (nobody task)⟩
  | stay guard same =>
    refine ⟨fun first second one two => ?_, fun task passed => ?_⟩
    · exact barred.single first second ((same first).mp one) ((same second).mp two)
    · obtain stayed | dropped := guard
      · rw [stayed]
        exact barred.closed task ((same task).mp passed)
      · rw [dropped]
        exact fun opened => nomatch opened

theorem Barred.new (id : RepositoryId) (pageSize : Nat) (scope : Scope) :
    (Session.new pageSize scope).Barred id := by
  have nobody (task : Nat) : ¬ (Session.new pageSize scope).Outstanding id task :=
    not_outstanding_of_none rfl
  exact ⟨fun first _ one _ => absurd one (nobody first),
    fun task passed => absurd passed (nobody task)⟩

/-- In undisturbed runs requests are kept apart. -/
theorem Barred.of_play (barred : session.Barred id) (played : session.play moves = some final)
    (undisturbed : session.Undisturbed id moves) : final.Barred id := by
  refine play_induction (fun moves final => session.Undisturbed id moves → final.Barred id)
    (fun _ => barred) (fun moves middle move next before ih moved undisturbed => ?_) played
    undisturbed
  obtain ⟨earlier, last⟩ := (throughout_concat before).mp undisturbed
  exact (ih earlier).of_move moved last

/-- While rows are not dropped, they are there as long as a request for more is outstanding. -/
theorem undropped_of_outstanding {pageSize : Nat} {scope : Scope}
    (played : (new pageSize scope).play moves = some session)
    (undropped : .dropped id ∉ (new pageSize scope).history moves)
    (passed : session.Outstanding id task) : session.world.store.cached.get? id ≠ none := by
  refine play_induction (fun moves session => .dropped id ∉ (new pageSize scope).history moves →
      ∀ task, session.Outstanding id task → session.world.store.cached.get? id ≠ none)
    (fun _ _ passed => absurd passed (not_outstanding_of_none rfl)) ?_ played undropped task passed
  intro moves middle move next before ih moved undropped task passed bare
  rw [history_concat before, List.mem_append, not_or] at undropped
  have there := ih undropped.1
  have bareBasis : next.world.store.basis? id = none := by rw [Store.basis?, bare]; rfl
  cases Fate.of_move id moved with
  | kept _ _ _ _ basis => cases bareBasis.symm.trans basis
  | dropped _ event => exact undropped.2 event
  | spared keeps _ =>
    -- There were no rows before, so nobody was outstanding, and nobody could pass the guard.
    have nobody (other : Nat) : ¬ middle.Outstanding id other := fun passed =>
      there other passed (Option.map_eq_none_iff.mp (keeps.basis.symm.trans bareBasis))
    cases GuardShift.of_move id moved with
    | pass _ closed _ =>
      rw [Store.guard?, bare] at closed
      cases closed
    | release held _ _ _ => exact nobody _ held
    | renew _ _ _ same | stay _ same => exact nobody task ((same task).mp passed)

/-- A run in which the rows of a repository are not dropped is undisturbed. -/
theorem undisturbed_of_undropped {pageSize : Nat} {scope : Scope}
    (played : (new pageSize scope).play moves = some session)
    (undropped : .dropped id ∉ (new pageSize scope).history moves) :
    (new pageSize scope).Undisturbed id moves := by
  refine play_induction (fun moves _ => .dropped id ∉ (new pageSize scope).history moves →
    (new pageSize scope).Undisturbed id moves) (fun _ => trivial)
    (fun moves middle move next before ih _ undropped => ?_) played undropped
  rw [history_concat before, List.mem_append, not_or] at undropped
  exact (throughout_concat before).mpr ⟨ih undropped.1, fun _ _ _ _ bare _ passed =>
    undropped_of_outstanding before undropped.1 passed bare⟩

/-! ### Runs that are disturbed -/

theorem kept_not_mem_of_nothing (nothing : session.moved? move = none) {request : PageRequest}
    {page : List Commit} : .kept request page ∉ session.events move := by
  rw [events_of_nothing nothing]
  intro event
  obtain ⟨_, -, other⟩ := List.mem_map.mp event
  cases other

/-- When rows are stored behind the back of a request, the guard is open although the request is
outstanding. -/
theorem exists_unguarded (moved : session.move move = some next) {request : PageRequest}
    {page : List Commit} (event : .kept request page ∈ session.events move)
    (own : request.repository = id) (bare : session.world.store.cached.get? id = none)
    (passed : session.Outstanding id task) :
    next.Outstanding id task ∧ next.world.store.guard? id = some false := by
  have bareGuard : session.world.store.guard? id = none := by rw [Store.guard?, bare]; rfl
  cases GuardShift.of_move id moved with
  | pass isOpen => cases bareGuard.symm.trans isOpen
  | release _ _ _ silent => exact absurd event (kept_not_mem_of_nothing silent)
  | renew _ isOpen _ same => exact ⟨(same task).mpr passed, isOpen⟩
  | stay guard _ =>
    -- The page that is kept is there afterwards, and with it a guard.
    obtain ⟨_, repository, _, _, _, asked, _, basis⟩ := exists_keep_of_kept moved event
    have here : repository.id = id := by rw [← own, asked]; rfl
    obtain ⟨cached, held, -, -⟩ := Store.exists_cached_of_basis? (here ▸ basis)
    rw [bareGuard, or_self, Store.guard?, held] at guard
    cases guard

/-- Past an open guard comes a second request. -/
theorem exists_second_request (passed : session.Outstanding id task)
    (isOpen : session.world.store.guard? id = some false) :
    ∃ later final, session.play later = some final ∧ session.Undisturbed id later ∧
      ¬ final.OneAtATime id := by
  let newcomer : Repository := { sampleRepository with id }
  let number := session.activities.length
  set begun := session.start (.loadMore newcomer)
  let final : Session :=
    { world := { begun.world with store := (Deed.mark id).store begun.world.store }
      activities := begun.activities.set number (.loadMore newcomer (.fetching .lookup)) }
  have held : begun.activities[number]? = some (.loadMore newcomer .guard) :=
    List.getElem?_concat_length
  have goes : (Activity.loadMore newcomer .guard).advance number begun.world none =
      some (final.world, .loadMore newcomer (.fetching .lookup)) := by
    rw [Activity.advance, LoadMore.advance_guard_of_open isOpen]
    rfl
  have started : session.play [.start (.loadMore newcomer)] = some begun := rfl
  have moved : begun.move (.advance number none) = some final := move_of_activity held goes
  refine ⟨_, final, play_concat_of_move started moved, ?_, fun single => ?_⟩
  · -- Neither of the two moves is one of a fetch.
    refine (throughout_concat started).mpr ⟨⟨fun _ _ event => ?_, fun _ _ => trivial⟩,
      fun _ _ event => ?_⟩
    · exact absurd event (kept_not_mem_of_nothing rfl)
    · refine absurd event (kept_not_mem_of_nothing ?_)
      rw [moved?, fetchOf?, held]
      rfl
  · have absent : session.requestOf? number = none :=
      part?_of_absent (List.getElem?_eq_none Nat.le.refl)
    have different : task ≠ number := fun same => not_outstanding_of_none absent (same ▸ passed)
    have stayed := (part?_of_other Activity.request? moved different).trans
      (part?_of_other Activity.request? (move_start session (.loadMore newcomer)) different)
    obtain ⟨inside, -⟩ := List.getElem?_eq_some_iff.mp held
    have here : final.activities[number]? = some (.loadMore newcomer (.fetching .lookup)) :=
      List.getElem?_set_self inside
    have mine : final.requestOf? number =
        (Activity.loadMore newcomer (.fetching .lookup)).request? := part?_of_held here
    refine different (single task number ((outstanding_congr stayed).mpr passed) ?_)
    exact ⟨newcomer, .fetching .lookup, mine, rfl, rfl⟩

/-- Outstanding requests for more of a repository are alone, also later unless rows are stored
behind the back of one, exactly if the run is undisturbed. And in an undisturbed run whoever comes
while a request is outstanding is turned away, and no other one is outstanding when a request is
over. -/
theorem oneAtATime_iff_undisturbed {pageSize : Nat} {scope : Scope} (id : RepositoryId)
    (played : (new pageSize scope).play moves = some session) :
    ((new pageSize scope).Undisturbed id moves ↔
      ∀ earlier rest later middle final, moves = earlier ++ rest →
        (new pageSize scope).play earlier = some middle → middle.play later = some final →
        middle.Undisturbed id later → final.OneAtATime id) ∧
    ((new pageSize scope).Undisturbed id moves →
      (∀ task number repository, session.Outstanding id task → repository.id = id →
        LoadMore.guard.advance number repository session.world none =
          some (session.world, .done (.ok false))) ∧
      ∀ move next task other, session.move move = some next → session.Outstanding id task →
        ¬ next.Outstanding id task → ¬ next.Outstanding id other) := by
  have barred := Barred.new id pageSize scope
  refine ⟨⟨fun undisturbed earlier rest later middle final split before after still => ?_, ?_⟩,
    fun undisturbed => ⟨fun task number repository passed same => ?_,
      fun move next task other moved passed ended passed' => ?_⟩⟩
  · subst split
    have kept := barred.of_play before ((throughout_append before).mp undisturbed).1
    exact (kept.of_play after still).single
  · refine play_induction (fun moves _ => (∀ earlier rest later middle final,
      moves = earlier ++ rest → (new pageSize scope).play earlier = some middle →
      middle.play later = some final → middle.Undisturbed id later → final.OneAtATime id) →
      (new pageSize scope).Undisturbed id moves) (fun _ => trivial) ?_ played
    intro moves middle move next before ih moved single
    refine (throughout_concat before).mpr ⟨ih fun earlier rest later start final split => ?_, ?_⟩
    · exact single earlier (rest ++ [move]) later start final (by rw [split, List.append_assoc])
    · -- The first move that disturbs a request opens the guard, and another one can pass.
      intro request page event own bare task passed
      obtain ⟨passed, isOpen⟩ := exists_unguarded moved event own bare passed
      obtain ⟨later, final, after, still, double⟩ := exists_second_request passed isOpen
      exact double (single (moves ++ [move]) [] later next final (List.append_nil _).symm
        (play_concat_of_move before moved) after still)
  · subst same
    exact LoadMore.advance_guard_of_closed ((barred.of_play played undisturbed).closed task passed)
  · have single := (barred.of_play played undisturbed).single
    cases GuardShift.of_move id moved with
    | pass isOpen _ _ => exact (barred.of_play played undisturbed).closed task passed isOpen
    | release held ended' others _ =>
      obtain rfl := single task _ passed held
      have different : other ≠ session.mover move := fun same => ended (same ▸ passed')
      exact different (single other _ ((others other different).mp passed') passed)
    | renew _ _ _ same | stay _ same => exact ended ((same task).mpr passed)

/-- A request for more asks for a page, and another one comes meanwhile. -/
def turnedAwayRun : List Move :=
  sampleRun ++ .start (.loadMore sampleRepository) :: List.replicate 6 (.advance 1 none) ++
    [.start (.loadMore sampleRepository), .advance 2 none]

theorem oneAtATime_of_turnedAwayRun :
    (new 1 .lineage).play turnedAwayRun = some (sampleAfter turnedAwayRun) ∧
      (new 1 .lineage).Undisturbed ⟨"r"⟩ turnedAwayRun ∧
      (sampleAfter turnedAwayRun).OneAtATime ⟨"r"⟩ ∧
      (sampleAfter turnedAwayRun).Outstanding ⟨"r"⟩ 1 ∧
      LoadMore.guard.advance 2 sampleRepository (sampleAfter turnedAwayRun).world none =
        some ((sampleAfter turnedAwayRun).world, .done (.ok false)) := by
  have played : (new 1 .lineage).play turnedAwayRun = some (sampleAfter turnedAwayRun) := rfl
  have undropped : .dropped ⟨"r"⟩ ∉ (new 1 .lineage).history turnedAwayRun := by decide
  have undisturbed := undisturbed_of_undropped played undropped
  have passed : (sampleAfter turnedAwayRun).Outstanding ⟨"r"⟩ 1 := ⟨_, _, rfl, rfl, rfl⟩
  obtain ⟨alone, apart⟩ := oneAtATime_iff_undisturbed ⟨"r"⟩ played
  obtain ⟨turnedAway, -⟩ := apart undisturbed
  refine ⟨played, undisturbed, ?_, passed, turnedAway 1 2 sampleRepository passed rfl⟩
  exact alone.mp undisturbed turnedAwayRun [] [] _ _ (List.append_nil _).symm played rfl trivial

/-- A fetch has asked for a page, and behind it a fetch and a request for more wait at the
turnstile. Then the rows are cleared. The page that comes is not stored, but the fetch behind stores
one, without a guard, and another request for more passes. -/
def disturbedRun : List Move :=
  sampleRun ++ [.start (.edit (.setWantsMore ⟨"r"⟩ true)), .advance 1 none] ++
    asking 2 sampleRepository sampleLineage ++
    .start (.fetch sampleRepository) :: List.replicate 3 (.advance 3 none) ++
    .start (.loadMore sampleRepository) :: List.replicate 4 (.advance 4 none) ++
    [.start (.edit (.clear ⟨"r"⟩)), .advance 5 none] ++ storing 2 (samplePage "2") ++
    List.replicate 3 (.advance 3 none) ++
    .advance 3 (some (.lineage (.ok (some sampleLineage)))) :: storing 3 (samplePage "1") ++
    [.start (.loadMore sampleRepository), .advance 6 none]

/-- Two requests for more of one repository can be outstanding. -/
theorem not_oneAtATime :
    ¬ ∀ (moves : List Move) (session : Session),
      (new 1 .lineage).play moves = some session → session.OneAtATime ⟨"r"⟩ := by
  intro single
  have played : (new 1 .lineage).play disturbedRun = some (sampleAfter disturbedRun) := rfl
  have first : (sampleAfter disturbedRun).Outstanding ⟨"r"⟩ 4 := ⟨_, _, rfl, rfl, rfl⟩
  have second : (sampleAfter disturbedRun).Outstanding ⟨"r"⟩ 6 := ⟨_, _, rfl, rfl, rfl⟩
  exact absurd (single disturbedRun _ played 4 6 first second) (by decide)

end CommitHistory.Session
