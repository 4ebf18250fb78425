/-
# One page for each cause

A page of a repository is fetched because there are no rows, or because one more page is
wanted. Storing it answers for all that was wanted so far, and meanwhile nobody else can be
about to store one: whoever waited at the turnstile looks again and finds the rows. So a page
is owing once at most, and it becomes owing anew only when somebody marks the rows or drops
them. What was stored therefore never exceeds what was caused, with one page for the first
fetch. And as long as nothing is caused, all who fetch the rows share one page.

## Main definitions

* `Session.pages`, `Session.times` — pages that were stored, and how often something happens.
* `Session.Owing` — rows are wanted, or somebody is about to store a page.
* `Session.Causeless` — nobody marks the rows or invalidates them.
* `Session.Abreast`, `Session.Supplied` — fetches whose note is current, and how they fare after
  a page was stored.

## Main results

* `Session.owing_of_move` — what makes a page owing.
* `Session.Stores.settles` — storing a page leaves none owing.
* `Session.one_page_per_cause` — pages are bounded by their causes, and concurrent fetches share
  one page.
-/

import CommitHistory.Proofs.Session.Request
import CommitHistory.Proofs.Session.SingleFlight
import CommitHistory.Proofs.Session.Told

namespace CommitHistory.Session

variable {session next final middle : Session} {move : Move} {moves : List Move}
  {id : RepositoryId} {task : Nat} {pageSize : Nat} {scope : Scope}

/-! ### Pages and their causes -/

/-- A notice that a page of a repository was stored. -/
def Notice.isPageOf (id : RepositoryId) : Notice → Bool
  | .loaded other _ _ => other = id
  | _ => false

/-- How many pages of a repository were stored. -/
def pages (id : RepositoryId) (session : Session) : Nat :=
  session.world.notices.countP (Notice.isPageOf id)

/-- A deed asks for one more page of a repository. -/
def Deed.asksForMore (id : RepositoryId) : Deed → Bool
  | .edit (.setWantsMore other true) | .mark other => other = id
  | _ => false

/-- A move asks for one more page of a repository: by hand, or for a request that has passed the
guard. -/
def demands (id : RepositoryId) (session : Session) (move : Move) : Bool :=
  (session.deedOf move).asksForMore id

/-- A move drops the rows of a repository that has some. -/
def sheds (id : RepositoryId) (session : Session) (move : Move) : Bool :=
  decide (.dropped id ∈ session.events move) && (session.world.store.cached.get? id).isSome

/-- How often something happens in a run. -/
def times (happens : Session → Move → Bool) (session : Session) (moves : List Move) : Nat :=
  (session.trace (fun session move => [happens session move]) moves).count true

theorem times_concat (happens : Session → Move → Bool) (played : session.play moves = some middle)
    (move : Move) :
    session.times happens (moves ++ [move]) =
      session.times happens moves + (happens middle move).toNat := by
  rw [times, trace_concat played, List.count_append, ← times]
  cases happens middle move <;> rfl

/-- A fetch has found a page missing, and asks for it or brings it. -/
def Fetch.isAsking : Fetch → Bool
  | .note _ | .askLineage _ _ | .askPage _ _ _ | .keep _ _ _ _ => true
  | .lookup | .findGate | .enter _ | .waiting _ | .recheck _ | .drop _ _ | .done _ => false

/-- The fetch of a task has found a page of a repository missing and may still store it. -/
def Pursues (id : RepositoryId) (session : Session) (task : Nat) : Prop :=
  ∃ repository stage, session.fetchOf? task = some (repository, stage) ∧ repository.id = id ∧
    stage.MayStore session.world.store id ∧ stage.isAsking = true

/-- A page of a repository is owing: the next fetch would ask for one, or somebody is about to store
one. -/
def Owing (id : RepositoryId) (session : Session) : Prop :=
  session.world.store.fresh? id = none ∨ ∃ task, session.Pursues id task

/-- A move stores a page of a repository. -/
def Stores (id : RepositoryId) (session : Session) (move : Move) : Prop :=
  ∃ task repository gate ticket lineage page, move = .advance task none ∧
    session.fetchOf? task = some (repository, .keep gate ticket lineage page) ∧
    repository.id = id ∧ ticket.isValid session.world.store id = true

/-! ### Rows that are handed out at once -/

theorem Store.fresh?_eq_some_iff {store : Store} {rows : List Row} :
    store.fresh? id = some rows ↔ ∃ cached, store.cached.get? id = some cached ∧
      cached.wantsMore = false ∧ cached.graph.rows = rows := by
  simp [Store.fresh?, Option.map_eq_some_iff, Option.filter_eq_some_iff, and_assoc]

theorem Store.fresh?_ne_none_iff {store : Store} :
    store.fresh? id ≠ none ↔
      ∃ cached, store.cached.get? id = some cached ∧ cached.wantsMore = false := by
  rw [Option.ne_none_iff_exists']
  simp only [fresh?_eq_some_iff]
  constructor
  · rintro ⟨_, cached, held, unwanted, -⟩
    exact ⟨cached, held, unwanted⟩
  · rintro ⟨cached, held, unwanted⟩
    exact ⟨_, cached, held, unwanted, rfl⟩

theorem Deed.wantsMore_remark {deed : Deed} (unasked : deed.asksForMore id = false)
    {cached : Cached} (unwanted : cached.wantsMore = false) :
    (deed.remark id cached).wantsMore = false := by
  cases deed with
  | edit change =>
    cases change with
    | setWantsMore other wantsMore =>
      rw [remark]
      split
      next same =>
        cases wantsMore with
        | false => rfl
        | true => simp [asksForMore, same] at unasked
      next => exact unwanted
    | _ => exact unwanted
  | mark other =>
    have different : other ≠ id := by simpa [asksForMore] using unasked
    rw [remark, if_neg different]
    exact unwanted
  | unmark other =>
    rw [remark]
    split <;> exact unwanted
  | _ => exact unwanted

/-- A step of a fetch leaves rows that are handed out at once, or drops them. -/
theorem Fetch.Steps.fresh? {repository : Repository} {world world' : World}
    {stage stage' : Fetch} {reply : Option Reply}
    (steps : Fetch.Steps task repository world stage reply world' stage')
    (fresh : world.store.fresh? id ≠ none)
    (undropped : .dropped id ∉ stage.events task repository world reply) :
    world'.store.fresh? id ≠ none := by
  rw [Store.fresh?_ne_none_iff] at fresh ⊢
  cases steps with
  | drop current =>
    -- Rows that are dropped here are those of another repository.
    have different : id ≠ repository.id := by
      rintro rfl
      simp [events, current] at undropped
    simpa [different] using fresh
  | keep valid =>
    by_cases same : id = repository.id
    · -- The rows that are stored come without a mark.
      simp [finish, store, World.publish, same]
    · simpa [finish, store, World.publish, same] using fresh
  | _ => exact fresh

/-- Rows that are handed out at once stay so until they are marked or dropped. -/
theorem fresh?_of_move (moved : session.move move = some next)
    (fresh : session.world.store.fresh? id ≠ none) (unmarked : session.demands id move = false)
    (unshed : session.sheds id move = false) : next.world.store.fresh? id ≠ none := by
  obtain ⟨cached, held, unwanted⟩ := Store.fresh?_ne_none_iff.mp fresh
  -- The rows are there, so whoever drops them sheds them.
  have undropped : .dropped id ∉ session.events move := by
    simpa [sheds, held] using unshed
  cases Shift.of_move moved with
  | deed nothing _ store _ _ =>
    rw [events_of_nothing nothing] at undropped
    rw [Store.fresh?_ne_none_iff, store, Deed.get?_cached_store, if_neg, held]
    · exact ⟨_, rfl, Deed.wantsMore_remark unmarked unwanted⟩
    · exact fun drops => undropped (List.mem_map_of_mem drops)
  | fetch under advanced world _ _ =>
    subst world
    rw [events_of_fetch under] at undropped
    exact (Fetch.Steps.of_advance advanced).fresh? fresh undropped

/-! ### What is owing -/

/-- Whoever is about to store a page after a move was so before it, or no rows were handed out at
once before it. -/
theorem Pursues.of_move (counted : session.Counted) (moved : session.move move = some next)
    (pursues : next.Pursues id task) :
    session.Pursues id task ∨ session.world.store.fresh? id = none := by
  obtain ⟨repository, stage, under, same, may, asking⟩ := pursues
  obtain ⟨stayed, -⟩ | rfl | ⟨reply, before, -, was, steps⟩ := fetch_of_move moved under
  · refine Or.inl ⟨repository, stage, stayed, same, ?_, asking⟩
    exact may.of_move moved fun ticket held =>
      same ▸ counted task repository stage ticket stayed held
  · cases asking
  · -- Of the steps that end in asking, only a second look that finds no rows was not yet one.
    obtain ⟨could, -⟩ | ⟨rfl, -⟩ := steps.mayStore may
    · generalize next.world = world at steps
      cases steps with
      | recheck missing => exact Or.inr (same ▸ missing)
      | note | ask _ | answer _ => exact Or.inl ⟨repository, _, was, same, could, rfl⟩
      | _ => cases asking
    · cases asking

/-- A page becomes owing only when the rows are marked or dropped. -/
theorem owing_of_move (counted : session.Counted) (moved : session.move move = some next)
    (owing : next.Owing id) :
    session.Owing id ∨ session.demands id move = true ∨ session.sheds id move = true := by
  by_cases fresh : session.world.store.fresh? id = none
  · exact Or.inl (Or.inl fresh)
  obtain none | ⟨task, pursues⟩ := owing
  · refine Or.inr ?_
    by_contra neither
    rw [not_or, Bool.not_eq_true, Bool.not_eq_true] at neither
    exact fresh?_of_move moved fresh neither.1 neither.2 none
  · obtain pursues | none := pursues.of_move counted moved
    · exact Or.inl (Or.inr ⟨task, pursues⟩)
    · exact absurd none fresh

/-- One fetch at most is about to store a page. -/
theorem Guarded.eq_of_pursues (guarded : session.Guarded id) {first second : Nat}
    (one : session.Pursues id first) (two : session.Pursues id second) : first = second := by
  have inside {stage : Fetch} (asking : stage.isAsking = true) : stage.inside? = stage.gate? := by
    cases stage <;> first | rfl | cases asking
  obtain ⟨repository, stage, under, same, may, asking⟩ := one
  obtain ⟨other, stage', under', same', may', asking'⟩ := two
  -- Both are inside the turnstile that the repository uses.
  have current := guarded.orderly first repository stage under same may
  have current' := guarded.orderly second other stage' under' same' may'
  obtain ⟨gate, here⟩ := may.exists_gate
  have here' : stage'.gate? = some gate := by rw [← current', current, here]
  have within : session.insideOf? first = some gate := by
    rw [insideOf?, under, Option.bind_some, inside asking, here]
  have within' : session.insideOf? second = some gate := by
    rw [insideOf?, under', Option.bind_some, inside asking', here']
  exact guarded.queued.eq_of_inside within within'

/-- A page that is stored was owing, and afterwards none is. -/
theorem Stores.settles (stores : session.Stores id move) (guarded : session.Guarded id)
    (moved : session.move move = some next) : session.Owing id ∧ ¬ next.Owing id := by
  obtain ⟨task, repository, gate, ticket, lineage, page, rfl, under, rfl, valid⟩ := stores
  have pursues : session.Pursues repository.id task :=
    ⟨repository, _, under, rfl, Ticket.live_of_isValid valid, rfl⟩
  refine ⟨Or.inr ⟨task, pursues⟩, ?_⟩
  obtain ⟨stage', steps, mine⟩ := steps_of_move under moved
  generalize reached : next.world = world at steps
  cases steps with
  | leave _ silent _ =>
    rw [Fetch.events, if_pos valid] at silent
    cases silent
  | keep _ =>
    rintro (none | ⟨other, pursues'⟩)
    · rw [reached] at none
      simp [Fetch.finish, Fetch.store, World.publish, Store.fresh?] at none
    · by_cases same : other = task
      · -- The fetch that has stored its page is over.
        subst same
        obtain ⟨_, _, under', -⟩ := pursues'
        cases mine.symm.trans under'
      · obtain ⟨repository', stage, under', own, may, asking⟩ := pursues'
        obtain ⟨stayed, -⟩ | rfl | ⟨_, _, mover, -⟩ := fetch_of_move moved under'
        · refine same (guarded.eq_of_pursues ⟨repository', stage, stayed, own, ?_, asking⟩ pursues)
          exact may.of_move moved fun ticket held =>
            own ▸ guarded.counted other repository' stage ticket stayed held
        · cases asking
        · cases mover
          exact same rfl

/-! ### What is stored -/

theorem Deed.countP_published (deed : Deed) (store : Store) :
    (deed.published store).countP (Notice.isPageOf id) = 0 := by
  have selections (after : Store) :
      (World.selectionNotices store after).countP (Notice.isPageOf id) = 0 := by
    rw [World.selectionNotices]
    split <;> rfl
  cases deed with
  | edit change =>
    cases change with
    | add repository => simpa [published, Edit.published, Notice.isPageOf] using selections _
    | choose _ | activate _ => exact selections _
    | setScope scope =>
      rw [published, Edit.published]
      split <;> rfl
    | _ => rfl
  | _ => rfl

/-- A step of a fetch publishes one page if it stores one, and none otherwise. -/
theorem Fetch.countP_published {repository : Repository} {world world' : World}
    {stage stage' : Fetch} {reply : Option Reply}
    (advanced : stage.advance task repository world reply = some (world', stage')) :
    (stage.published repository world).countP (Notice.isPageOf id) = 0 ∨
      (stage.published repository world).countP (Notice.isPageOf id) = 1 ∧ reply = none ∧
        repository.id = id ∧ ∃ gate ticket lineage page, stage = .keep gate ticket lineage page ∧
          ticket.isValid world.store id = true := by
  cases stage with
  | keep gate ticket lineage page =>
    cases reply with
    | some _ => cases advanced
    | none =>
      rw [published]
      split
      next valid =>
        by_cases same : repository.id = id
        · subst same
          refine Or.inr ⟨?_, rfl, rfl, gate, ticket, lineage, page, rfl, valid⟩
          simp [Notice.isPageOf]
        · exact Or.inl (by simp [Notice.isPageOf, same])
      next => exact Or.inl rfl
  | _ => exact Or.inl rfl

/-- A move adds one page if it stores one, and none otherwise. -/
theorem pages_of_move (id : RepositoryId) (modest : session.Modest)
    (moved : session.move move = some next) :
    next.pages id = session.pages id ∨
      next.pages id = session.pages id + 1 ∧ session.Stores id move := by
  have counted : next.pages id =
      session.pages id + (session.publication move).countP (Notice.isPageOf id) := by
    rw [pages, notices_of_move moved, List.countP_append, ← pages]
  cases Shift.of_move moved with
  | deed nothing _ _ _ _ =>
    refine Or.inl (counted.trans ?_)
    obtain ⟨-, published⟩ | ⟨task, reply, other, withheld, rfl, held, published⟩ :=
      publication_of_deed nothing
    · rw [published, Deed.countP_published]
      rfl
    · -- What a removal has withheld is selections.
      have silent : withheld.countP (Notice.isPageOf id) = 0 := by
        rw [List.countP_eq_zero]
        intro notice member
        obtain ⟨selected, rfl⟩ := modest task other withheld held notice member
        exact Bool.false_ne_true
      rw [published, List.countP_cons, silent]
      rfl
  | @fetch task reply repository stage _ _ _ under advanced _ _ _ =>
    rw [publication_of_fetch under] at counted
    obtain none | ⟨one, rfl, same, gate, ticket, lineage, page, rfl, valid⟩ :=
      Fetch.countP_published advanced
    · exact Or.inl (counted.trans (congrArg (session.pages id + ·) none))
    · refine Or.inr ⟨counted.trans (congrArg (session.pages id + ·) one), ?_⟩
      exact ⟨task, repository, gate, ticket, lineage, page, rfl, under, same, valid⟩

/-- The move of a fetch with a valid note stores its page. -/
theorem Stores.pages (stores : session.Stores id move) (moved : session.move move = some next) :
    next.pages id = session.pages id + 1 := by
  obtain ⟨task, repository, gate, ticket, lineage, page, rfl, under, rfl, valid⟩ := stores
  rw [Session.pages, notices_of_move moved, publication_of_fetch under, Fetch.published,
    if_pos valid, List.countP_append, ← Session.pages]
  simp [Notice.isPageOf]

/-! ### Runs without a removal -/

/-- What keeps the account of a repository right: the fetches are kept apart, what removals withhold
is selections, and nobody removes the repository. -/
structure Steady (id : RepositoryId) (session : Session) : Prop where
  guarded : session.Guarded id
  modest : session.Modest
  sparing : session.Sparing id

namespace Steady

theorem of_move (steady : session.Steady id) (moved : session.move move = some next)
    (kept : move ≠ .start (.remove id)) : next.Steady id where
  guarded := steady.guarded.of_move moved fun forgotten => by
    have spared := steady.sparing.removes?_deedOf move
    rw [forgotten] at spared
    exact absurd rfl spared
  modest := steady.modest.of_move moved
  sparing := steady.sparing.of_move moved kept

theorem of_play (steady : session.Steady id) (played : session.play moves = some final)
    (kept : .start (.remove id) ∉ moves) : final.Steady id := by
  refine play_induction (fun moves final => .start (.remove id) ∉ moves → final.Steady id)
    (fun _ => steady) ?_ played kept
  intro moves middle move next _ ih moved kept
  rw [List.mem_append, List.mem_singleton, not_or] at kept
  exact (ih kept.1).of_move moved (Ne.symm kept.2)

theorem new (id : RepositoryId) (pageSize : Nat) (scope : Scope) :
    (new pageSize scope).Steady id := by
  have started : (Session.new pageSize scope).play [] = some (Session.new pageSize scope) := rfl
  exact ⟨.new id pageSize scope, Modest.of_play started,
    Sparing.of_play started List.not_mem_nil⟩

end Steady

/-- The pages that a run stores have causes, but for one; and for that one as well if a page is
still owing. -/
theorem Steady.pages_le (steady : session.Steady id) (played : session.play moves = some final)
    (kept : .start (.remove id) ∉ moves) :
    session.pages id ≤ final.pages id ∧ final.pages id ≤ session.pages id + 1 +
        (session.times (demands id) moves + session.times (sheds id) moves) ∧
      (final.Owing id → final.pages id ≤ session.pages id +
        (session.times (demands id) moves + session.times (sheds id) moves)) := by
  -- While a page is owing nothing was stored without a cause, so the one that is owing may be.
  refine play_induction (fun moves final => .start (.remove id) ∉ moves →
    session.pages id ≤ final.pages id ∧ final.pages id ≤ session.pages id + 1 +
        (session.times (demands id) moves + session.times (sheds id) moves) ∧
      (final.Owing id → final.pages id ≤ session.pages id +
        (session.times (demands id) moves + session.times (sheds id) moves)))
    (fun _ => ?_) ?_ played kept
  · exact ⟨Nat.le_refl _, by simp [times, trace], fun _ => by simp [times, trace]⟩
  intro moves middle move next before ih moved kept
  rw [List.mem_append, not_or] at kept
  obtain ⟨grown, bound, owed⟩ := ih kept.1
  have steady := steady.of_play before kept.1
  rw [times_concat _ before, times_concat _ before]
  obtain same | ⟨more, stores⟩ := pages_of_move id steady.modest moved
  · refine ⟨by omega, by omega, fun owing => ?_⟩
    obtain owing | demanded | shed := owing_of_move steady.guarded.counted moved owing
    · have := owed owing
      omega
    · rw [demanded, Bool.toNat_true]
      omega
    · rw [shed, Bool.toNat_true]
      omega
  · -- The page that is stored was owing, so it has not been counted as the extra one.
    obtain ⟨owing, settled⟩ := stores.settles steady.guarded moved
    have := owed owing
    exact ⟨by omega, by omega, fun owing => absurd owing settled⟩

/-! ### Moves without a cause -/

/-- A move neither asks for one more page of a repository nor invalidates its rows. -/
structure Causeless (id : RepositoryId) (session : Session) (move : Move) : Prop where
  undemanded : session.demands id move = false
  undropped : .dropped id ∉ session.events move
  scope : ∀ scope, session.deedOf move = .edit (.setScope scope) →
    scope = session.world.store.scope

/-- The fetch of a task has noted nothing about a repository, or what is still so. -/
def Abreast (id : RepositoryId) (session : Session) (task : Nat) : Prop :=
  ∀ repository stage ticket, session.fetchOf? task = some (repository, stage) →
    repository.id = id → stage.ticket? = some ticket →
    ticket.isValid session.world.store id = true

/-- Rows are handed out at once, and nobody is about to store a page. -/
structure Provided (id : RepositoryId) (rows : List Row) (session : Session) : Prop where
  fresh : session.world.store.fresh? id = some rows
  settled : ¬ session.Owing id

/-- The fetch of a task asks nothing, and if it ends with its next step, without a source or without
dropping rows, then with the given rows. -/
structure Supplied (id : RepositoryId) (rows : List Row) (session : Session) (task : Nat) :
    Prop where
  silent : ∀ repository stage, session.fetchOf? task = some (repository, stage) →
    repository.id = id → stage.question? session.world repository = none
  result : ∀ repository stage reply world result,
    session.fetchOf? task = some (repository, stage) → repository.id = id →
    stage.advance task repository session.world reply = some (world, .done result) →
    repository.source ≠ none → .dropped id ∉ stage.events task repository session.world reply →
    result = .ok rows

theorem Deed.scope_store {deed : Deed} {store : Store}
    (same : ∀ scope, deed = .edit (.setScope scope) → scope = store.scope) :
    (deed.store store).scope = store.scope := by
  cases deed with
  | mark other | unmark other => exact Store.scope_alter store other _
  | edit change =>
    cases change with
    | setScope scope =>
      rw [Deed.store, if_pos (same scope rfl).symm]
    | setWantsMore other _ => exact Store.scope_alter store other _
    | _ => rfl
  | _ => rfl

namespace Causeless

theorem unshed (causeless : session.Causeless id move) : session.sheds id move = false := by
  simp [sheds, causeless.undropped]

theorem generation (causeless : session.Causeless id move)
    (moved : session.move move = some next) :
    next.world.store.generation id = session.world.store.generation id := by
  cases Fate.of_move id moved with
  | kept _ _ _ _ _ same => exact same
  | dropped _ event => exact absurd event causeless.undropped
  | spared keeps => exact keeps.generation

theorem scope_eq (causeless : session.Causeless id move) (moved : session.move move = some next) :
    next.world.store.scope = session.world.store.scope := by
  cases Shift.of_move moved with
  | deed _ _ store _ _ =>
    rw [store]
    exact Deed.scope_store causeless.scope
  | fetch _ advanced world _ _ =>
    have steps := Fetch.Steps.of_advance advanced
    rw [world]
    cases steps <;> rfl

/-- What was noted before the move is still so after it. -/
theorem isValid (causeless : session.Causeless id move) (moved : session.move move = some next)
    (ticket : Ticket) :
    ticket.isValid next.world.store id = ticket.isValid session.world.store id := by
  rw [Ticket.isValid, Ticket.isValid, causeless.generation moved, causeless.scope_eq moved]

/-- No page becomes owing. -/
theorem settled (causeless : session.Causeless id move) (counted : session.Counted)
    (moved : session.move move = some next) (settled : ¬ session.Owing id) : ¬ next.Owing id := by
  intro owing
  obtain owing | demanded | shed := owing_of_move counted moved owing
  · exact settled owing
  · rw [causeless.undemanded] at demanded
    cases demanded
  · rw [causeless.unshed] at shed
    cases shed

end Causeless

theorem times_demands_eq_zero (played : session.play moves = some final)
    (causeless : session.Throughout (Causeless id) moves) :
    session.times (demands id) moves + session.times (sheds id) moves = 0 := by
  refine play_induction (fun moves _ => session.Throughout (Causeless id) moves →
    session.times (demands id) moves + session.times (sheds id) moves = 0)
    (fun _ => rfl) ?_ played causeless
  intro moves middle move next before ih _ causeless
  obtain ⟨earlier, last⟩ := (throughout_concat before).mp causeless
  rw [times_concat _ before, times_concat _ before, last.undemanded, last.unshed]
  exact ih earlier

/-- Without causes one page at most is stored. -/
theorem Steady.pages_le_of_causeless (steady : session.Steady id)
    (played : session.play moves = some final) (kept : .start (.remove id) ∉ moves)
    (causeless : session.Throughout (Causeless id) moves) :
    final.pages id ≤ session.pages id + 1 := by
  have bound := (steady.pages_le played kept).2.1
  have uncaused := times_demands_eq_zero played causeless
  omega

/-- What a fetch has noted stays current. -/
theorem Abreast.of_move (abreast : session.Abreast id task) (causeless : session.Causeless id move)
    (moved : session.move move = some next) : next.Abreast id task := by
  intro repository stage ticket under same held
  rw [causeless.isValid moved]
  obtain ⟨stayed, -⟩ | rfl | ⟨reply, before, -, was, steps⟩ := fetch_of_move moved under
  · exact abreast repository stage ticket stayed same held
  · cases held
  · obtain ⟨-, old | rfl⟩ := steps.ticket held
    · exact abreast repository before ticket was same old
    · -- A note that has just been made is of what is there.
      subst same
      simp [Ticket.isValid, Ticket.take]

theorem Abreast.of_play (abreast : session.Abreast id task)
    (played : session.play moves = some final)
    (causeless : session.Throughout (Causeless id) moves) : final.Abreast id task := by
  refine play_induction (fun moves final => session.Throughout (Causeless id) moves →
    final.Abreast id task) (fun _ => abreast) ?_ played causeless
  intro moves middle move next before ih moved causeless
  obtain ⟨earlier, last⟩ := (throughout_concat before).mp causeless
  exact (ih earlier).of_move last moved

namespace Provided

variable {rows : List Row}

/-- As long as nothing is caused the rows stay as they are, and no page is stored. -/
theorem of_move (provided : session.Provided id rows) (steady : session.Steady id)
    (causeless : session.Causeless id move) (moved : session.move move = some next) :
    next.Provided id rows ∧ next.pages id = session.pages id := by
  have settled := causeless.settled steady.guarded.counted moved provided.settled
  have unstored : ¬ session.Stores id move := fun stores =>
    provided.settled (stores.settles steady.guarded moved).1
  refine ⟨⟨?_, settled⟩, ?_⟩
  · -- The graph stays, for nobody stores or drops one, and rows are handed out as none is owing.
    obtain ⟨cached, held, -, laid⟩ := Store.fresh?_eq_some_iff.mp provided.fresh
    have basis : next.world.store.basis? id = some (cached.lineage, cached.graph) := by
      rw [← Store.basis?_of_cached held]
      cases Fate.of_move id moved with
      | kept _ under same valid _ _ _ _ =>
        have live := Ticket.live_of_isValid valid
        exact absurd (Or.inr ⟨_, _, _, under, same, live, rfl⟩) provided.settled
      | dropped _ event => exact absurd event causeless.undropped
      | spared keeps => exact keeps.basis
    obtain ⟨rows', fresh⟩ := Option.ne_none_iff_exists'.mp (not_or.mp settled).1
    obtain ⟨cached', held', -, laid'⟩ := Store.fresh?_eq_some_iff.mp fresh
    rw [Store.basis?_of_cached held'] at basis
    obtain ⟨-, graph⟩ := Prod.mk.inj (Option.some.inj basis)
    rw [fresh, ← laid', graph, laid]
  · obtain same | ⟨-, stores⟩ := pages_of_move id steady.modest moved
    · exact same
    · exact absurd stores unstored

/-- Storing a page provides its rows. -/
theorem of_stores {repository : Repository} {gate : Nat} {ticket : Ticket} {lineage : Lineage}
    {page : List Commit} (steady : session.Steady id)
    (under : session.fetchOf? task = some (repository, .keep gate ticket lineage page))
    (same : repository.id = id) (valid : ticket.isValid session.world.store id = true)
    (moved : session.move (.advance task none) = some next) :
    next.Provided id (ticket.grown lineage page).rows ∧ next.pages id = session.pages id + 1 := by
  have stores : session.Stores id (.advance task none) :=
    ⟨task, repository, gate, ticket, lineage, page, rfl, under, same, valid⟩
  refine ⟨⟨?_, (stores.settles steady.guarded moved).2⟩, stores.pages moved⟩
  subst same
  obtain ⟨stage', steps, -⟩ := steps_of_move under moved
  generalize next.world = world at steps ⊢
  cases steps with
  | leave _ silent _ =>
    rw [Fetch.events, if_pos valid] at silent
    cases silent
  | keep _ => simp [Fetch.finish, Fetch.store, World.publish, Store.fresh?]

theorem of_play (provided : session.Provided id rows) (steady : session.Steady id)
    (played : session.play moves = some final) (kept : .start (.remove id) ∉ moves)
    (causeless : session.Throughout (Causeless id) moves) :
    final.Provided id rows ∧ final.pages id = session.pages id := by
  refine play_induction (fun moves final => .start (.remove id) ∉ moves →
    session.Throughout (Causeless id) moves →
      final.Provided id rows ∧ final.pages id = session.pages id)
    (fun _ _ => ⟨provided, rfl⟩) ?_ played kept causeless
  intro moves middle move next before ih moved kept causeless
  rw [List.mem_append, not_or] at kept
  obtain ⟨earlier, last⟩ := (throughout_concat before).mp causeless
  obtain ⟨provided, same⟩ := ih kept.1 earlier
  obtain ⟨provided, same'⟩ := provided.of_move (steady.of_play before kept.1) last moved
  exact ⟨provided, same'.trans same⟩

/-- Whoever has a current note, or none, gets the rows. -/
theorem supplied (provided : session.Provided id rows) (abreast : session.Abreast id task) :
    session.Supplied id rows task := by
  have idle {repository : Repository} {stage : Fetch}
      (under : session.fetchOf? task = some (repository, stage)) (same : repository.id = id) :
      stage.isAsking = false := by
    by_contra asking
    rw [Bool.not_eq_false] at asking
    refine provided.settled (Or.inr ⟨task, repository, stage, under, same, ?_, asking⟩)
    cases stage with
    | note _ => trivial
    | askLineage _ ticket | askPage _ ticket _ | keep _ ticket _ _ =>
      exact Ticket.live_of_isValid (abreast repository _ ticket under same rfl)
    | _ => cases asking
  constructor
  case silent =>
    intro repository stage under same
    have idle := idle under same
    unfold Fetch.question?
    cases repository.source with
    | none => rfl
    | some source =>
      cases stage with
      | askLineage _ _ | askPage _ _ _ => cases idle
      | _ => rfl
  case result =>
    intro repository stage reply world result under same advanced sourced undropped
    have idle := idle under same
    subst same
    cases Fetch.Ends.of_advance advanced with
    | sourceless without => exact absurd without sourced
    | found fresh | foundInside fresh =>
      exact congrArg Except.ok (Option.some.inj (fresh.symm.trans provided.fresh))
    | dropped current => simp [Fetch.events, current] at undropped
    | @spared _ ticket old =>
      -- The note is current, so the rows are dropped.
      have valid := abreast repository _ ticket under rfl rfl
      rw [Ticket.isValid, Bool.and_eq_true, decide_eq_true_eq] at valid
      exact absurd valid.1 old
    | withoutLineage _ | withoutPage _ | kept _ | handedOut _ => cases idle

end Provided

/-! ### Calls that return -/

/-- A call returns with the last step of its fetch. -/
theorem Activity.exists_of_returned {activity : Activity} {repository : Repository}
    {world world' : World} {reply : Option Reply} {result : Except Fault (List Row)}
    (advanced : activity.advance task world reply =
      some (world', .fetch repository (.done result))) :
    ∃ stage, activity.fetch? = some (repository, stage) ∧
      stage.advance task repository world reply = some (world', .done result) := by
  cases activity with
  | fetch other stage =>
    obtain ⟨stage', stepped, same⟩ := exists_of_map_eq_some advanced
    cases same
    refine ⟨stage, ?_, stepped⟩
    cases stage with
    | done _ => cases stepped
    | _ => rfl
  | edit _ | ask _ => cases reply <;> cases advanced
  | edited | told _ => cases advanced
  | _ =>
    obtain ⟨_, -, other⟩ := exists_of_map_eq_some advanced
    cases other

/-- A call whose fetch brings a page returns the rows with that page. -/
theorem eq_of_returned_keeping {repository caller : Repository} {gate : Nat} {ticket : Ticket}
    {lineage : Lineage} {page : List Commit} {result : Except Fault (List Row)}
    (under : session.fetchOf? task = some (repository, .keep gate ticket lineage page))
    (moved : session.move (.advance task none) = some next)
    (returned : next.activities[task]? = some (.fetch caller (.done result))) :
    result = .ok (ticket.grown lineage page).rows := by
  obtain ⟨activity, held, fetch⟩ := Option.bind_eq_some_iff.mp under
  obtain ⟨_, _, absent, _⟩ | ⟨reply, before, after, was, is, stepped⟩ := activities_of_move moved
  · cases held.symm.trans absent
  · obtain rfl := Option.some.inj (held.symm.trans was)
    obtain rfl := Option.some.inj (returned.symm.trans is)
    obtain ⟨stage, fetch', advanced⟩ := Activity.exists_of_returned stepped
    cases fetch.symm.trans fetch'
    generalize next.world = world at advanced
    cases Fetch.Ends.of_advance advanced with
    | kept _ | handedOut _ => rfl

/-- A call that returns in a run without causes returns the rows that are there. -/
theorem Provided.eq_of_returned {rows : List Row} {repository : Repository}
    {result : Except Fault (List Row)} (provided : session.Provided id rows)
    (steady : session.Steady id) (played : session.play moves = some final)
    (kept : .start (.remove id) ∉ moves) (causeless : session.Throughout (Causeless id) moves)
    (abreast : session.Abreast id task) (same : repository.id = id)
    (sourced : repository.source ≠ none)
    (returned : final.activities[task]? = some (.fetch repository (.done result)))
    (before : session.activities[task]? ≠ some (.fetch repository (.done result))) :
    result = .ok rows := by
  refine play_induction (fun moves final => .start (.remove id) ∉ moves →
    session.Throughout (Causeless id) moves →
    final.activities[task]? = some (.fetch repository (.done result)) → result = .ok rows)
    (fun _ _ there => absurd there before) ?_ played kept causeless returned
  intro moves middle move next before ih moved kept causeless returned
  rw [List.mem_append, not_or] at kept
  obtain ⟨earlier, last⟩ := (throughout_concat before).mp causeless
  have supplied := (provided.of_play steady before kept.1 earlier).1.supplied
    (abreast.of_play before earlier)
  cases Turn.of_move moved with
  | start call =>
    rw [start, List.getElem?_append] at returned
    split at returned
    next => exact ih kept.1 earlier returned
    next =>
      -- No call has returned when it begins.
      have begun := List.mem_singleton.mp (List.mem_of_getElem? returned)
      cases call <;> cases begun
  | @advance mover reply activity after world held stepped =>
    by_cases own : task = mover
    · subst own
      obtain ⟨inside, -⟩ := List.getElem?_eq_some_iff.mp held
      rw [List.getElem?_set_self inside] at returned
      obtain rfl := Option.some.inj returned
      obtain ⟨stage, fetch, advanced⟩ := Activity.exists_of_returned stepped
      have under : middle.fetchOf? task = some (repository, stage) := by
        rw [fetchOf?, held]
        exact fetch
      have undropped := last.undropped
      rw [events_of_fetch under] at undropped
      exact supplied.result repository stage reply world result under same advanced sourced
        undropped
    · rw [List.getElem?_set_ne (Ne.symm own)] at returned
      exact ih kept.1 earlier returned

/-! ### Pages and causes of a run -/

/-- While a repository is never removed, its pages are at most one more than its causes: demands for
one more page, and rows that were dropped. In a part of the run without causes, in which neither
rows nor scope change from outside, one page at most is stored. If a fetch whose note is current
stores one, then it is the only one, and all other fetches ask nothing from then on and return
the rows that come of it. -/
theorem one_page_per_cause {before between : List Move}
    (played : (new pageSize scope).play before = some session)
    (after : session.play between = some final) (kept : .start (.remove id) ∉ before ++ between) :
    session.pages id ≤ 1 + (new pageSize scope).times (demands id) before +
        (new pageSize scope).times (sheds id) before ∧
      (session.Throughout (Causeless id) between →
        final.pages id ≤ session.pages id + 1 ∧
        ∀ asking rest middle stored task repository gate ticket lineage page,
          between = asking ++ .advance task none :: rest → session.play asking = some middle →
          middle.move (.advance task none) = some stored → session.Abreast id task →
          middle.fetchOf? task = some (repository, .keep gate ticket lineage page) →
          repository.id = id →
          final.pages id = session.pages id + 1 ∧
          final.world.store.fresh? id = some (ticket.grown lineage page).rows ∧
          (∀ earlier later now other, rest = earlier ++ later → stored.play earlier = some now →
            session.Abreast id other → now.Supplied id (ticket.grown lineage page).rows other) ∧
          ∀ other caller result, session.Abreast id other → caller.id = id →
            caller.source ≠ none →
            final.activities[other]? = some (.fetch caller (.done result)) →
            middle.activities[other]? ≠ some (.fetch caller (.done result)) →
            result = .ok (ticket.grown lineage page).rows) := by
  rw [List.mem_append, not_or] at kept
  obtain ⟨keptBefore, keptBetween⟩ := kept
  have start : (new pageSize scope).Steady id := .new id pageSize scope
  have steady := start.of_play played keptBefore
  refine ⟨?_, fun causeless => ?_⟩
  · have bound := (start.pages_le played keptBefore).2.1
    have none : (new pageSize scope).pages id = 0 := rfl
    omega
  · have bound := steady.pages_le_of_causeless after keptBetween causeless
    refine ⟨bound, ?_⟩
    intro asking rest middle stored task repository gate ticket lineage page split first moved
      abreast under same
    subst split
    obtain ⟨quiet, causeless', quiet'⟩ := (throughout_append first).mp causeless
    have quiet' := quiet' stored moved
    have keptAsking : .start (.remove id) ∉ asking := fun member =>
      keptBetween (List.mem_append_left _ member)
    have keptRest : .start (.remove id) ∉ rest := fun member =>
      keptBetween (List.mem_append_right _ (List.mem_cons_of_mem _ member))
    have rested : stored.play rest = some final := by
      rw [play_append_of_play first] at after
      obtain ⟨_, moved', rested⟩ := Option.bind_eq_some_iff.mp after
      exact Option.some.inj (moved.symm.trans moved') ▸ rested
    -- What the fetch has noted is still so, so its page is stored.
    have steadyMiddle := steady.of_play first keptAsking
    have steadyStored := steadyMiddle.of_move moved nofun
    have valid := abreast.of_play first quiet repository _ ticket under same rfl
    obtain ⟨provided, one⟩ := Provided.of_stores steadyMiddle under same valid moved
    obtain ⟨providedFinal, none⟩ := provided.of_play steadyStored rested keptRest quiet'
    have level {other : Nat} (abreast : session.Abreast id other) : stored.Abreast id other :=
      (abreast.of_play first quiet).of_move causeless' moved
    refine ⟨?_, providedFinal.fresh, ?_, ?_⟩
    · have before := (steady.pages_le first keptAsking).1
      omega
    · intro earlier later now other split reached abreast
      subst split
      have early := ((throughout_append reached).mp quiet').1
      have keptEarlier : .start (.remove id) ∉ earlier := fun member =>
        keptRest (List.mem_append_left _ member)
      exact (provided.of_play steadyStored reached keptEarlier early).1.supplied
        ((level abreast).of_play reached early)
    · intro other caller result abreast own sourced returned before
      by_cases there : stored.activities[other]? = some (.fetch caller (.done result))
      · -- The call that has stored the page returns with it.
        have mover : other = task := by
          by_contra different
          exact before ((activities_of_other moved different).symm.trans there)
        subst mover
        exact eq_of_returned_keeping under moved there
      · exact provided.eq_of_returned steadyStored rested keptRest quiet' (level abreast) own
          sourced returned there

/-- A run in which nobody does anything outside fetches, and no rows are dropped, has no causes. -/
theorem throughout_causeless (played : session.play moves = some final)
    (resting : ∀ deed ∈ session.trace (fun session move => [session.deedOf move]) moves,
      deed = .rest)
    (undropped : .dropped id ∉ session.history moves) :
    session.Throughout (Causeless id) moves := by
  refine play_induction (fun moves _ =>
    (∀ deed ∈ session.trace (fun session move => [session.deedOf move]) moves, deed = .rest) →
    .dropped id ∉ session.history moves → session.Throughout (Causeless id) moves)
    (fun _ _ => trivial) ?_ played resting undropped
  intro moves middle move next before ih _ resting undropped
  rw [history_concat before, List.mem_append, not_or] at undropped
  rw [trace_concat before] at resting
  have rests := resting _ (List.mem_append_right _ List.mem_cons_self)
  refine (throughout_concat before).mpr ⟨ih ?_ undropped.1, ?_⟩
  · exact fun deed member => resting deed (List.mem_append_left _ member)
  · refine ⟨by rw [demands, rests]; rfl, undropped.2, fun scope edits => ?_⟩
    cases rests.symm.trans edits

/-- Rows are stored, and one more page is wanted. -/
def markedRun : List Move :=
  sampleRun ++ [.start (.edit (.setWantsMore ⟨"r"⟩ true)), .advance 1 none]

/-- Two fetches come at the same time, and one of them brings a page. -/
def crowdedRun : List Move :=
  asking 2 sampleRepository sampleLineage ++
    .start (.fetch sampleRepository) :: List.replicate 3 (.advance 3 none) ++
    [.advance 2 (some (.page (.ok (samplePage "2"))))]

/-- The page is stored, and the other fetch looks again. -/
def servedRun : List Move := .advance 2 none :: List.replicate 2 (.advance 3 none)

theorem one_page_per_cause_servedRun :
    (sampleAfter markedRun).pages ⟨"r"⟩ ≤ 1 + (new 1 .lineage).times (demands ⟨"r"⟩) markedRun +
        (new 1 .lineage).times (sheds ⟨"r"⟩) markedRun ∧
      ∃ final rows, (sampleAfter markedRun).play (crowdedRun ++ servedRun) = some final ∧
        final.pages ⟨"r"⟩ = (sampleAfter markedRun).pages ⟨"r"⟩ + 1 ∧ rows.length = 2 ∧
        final.world.store.fresh? ⟨"r"⟩ = some rows ∧
        final.activities[3]? = some (.fetch sampleRepository (.done (.ok rows))) := by
  have played : (new 1 .lineage).play markedRun = some (sampleAfter markedRun) := rfl
  have after : (sampleAfter markedRun).play (crowdedRun ++ servedRun) =
      some (sampleAfter (markedRun ++ (crowdedRun ++ servedRun))) := play_sampleAfter rfl
  have first : (sampleAfter markedRun).play crowdedRun =
      some (sampleAfter (markedRun ++ crowdedRun)) := play_sampleAfter rfl
  have kept : .start (.remove ⟨"r"⟩) ∉ markedRun ++ (crowdedRun ++ servedRun) := by
    simp [markedRun, sampleRun, crowdedRun, servedRun, asking, storing]
  have causeless : (sampleAfter markedRun).Throughout (Causeless ⟨"r"⟩)
      (crowdedRun ++ servedRun) := throughout_causeless after (by decide) (by decide)
  have abreast (task : Nat) (absent : (sampleAfter markedRun).fetchOf? task = none) :
      (sampleAfter markedRun).Abreast ⟨"r"⟩ task := by
    intro _ _ _ under
    cases absent.symm.trans under
  obtain ⟨bound, shared⟩ := one_page_per_cause played after kept
  obtain ⟨pages, fresh, -, returned⟩ := (shared causeless).2 crowdedRun
    (List.replicate 2 (.advance 3 none)) (sampleAfter (markedRun ++ crowdedRun)) _ 2
    sampleRepository 0 _ sampleLineage (samplePage "2") rfl first rfl (abreast 2 rfl) rfl rfl
  -- The other fetch still waits at the turnstile when the page comes.
  have waiting : (sampleAfter (markedRun ++ crowdedRun)).activities[3]? =
      some (.fetch sampleRepository (.waiting 0)) := rfl
  obtain ⟨result, finished⟩ : ∃ result,
      (sampleAfter (markedRun ++ (crowdedRun ++ servedRun))).activities[3]? =
        some (.fetch sampleRepository (.done result)) := ⟨_, rfl⟩
  have unfinished : (sampleAfter (markedRun ++ crowdedRun)).activities[3]? ≠
      some (.fetch sampleRepository (.done result)) := by
    intro same
    cases waiting.symm.trans same
  have ended := returned 3 sampleRepository result (abreast 3 rfl) rfl (by decide) finished
    unfinished
  subst ended
  exact ⟨bound, _, _, after, pages, rfl, fresh, finished⟩

end CommitHistory.Session
