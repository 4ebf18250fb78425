/-
# When requests overlap

A removal may forget the turnstile of a repository while a fetch that came to it may still
store a page. Then a second request can always join the first: the fetch that lingers goes
on at the old turnstile until it has asked for a page, while another one finds a new
turnstile and asks for the same page. So the runs in which requests never overlap are
exactly the tidy ones.

## Main results

* `Session.Overlap.exists_of_lingers` — a fetch that lingers leads to two requests in flight.
* `Session.singleFlight_iff_tidy` — requests do not overlap exactly if the run is tidy.
* `Session.not_singleFlight` — not every run is tidy.
-/

import CommitHistory.Proofs.Session.Progress

namespace CommitHistory

theorem Table.mem_keys_iff {κ α : Type} [DecidableEq κ] {table : Table κ α} {key : κ} :
    key ∈ table.keys ↔ table.get? key ≠ none := by
  constructor
  · intro member
    obtain ⟨⟨_, value⟩, entry, rfl⟩ := List.mem_map.mp member
    rw [get?, ne_eq, List.lookup_eq_none_iff]
    intro absent
    simpa using absent _ entry
  · intro found
    obtain ⟨value, found⟩ := Option.ne_none_iff_exists'.mp found
    exact mem_keys_of_get?_eq_some found

namespace Session

variable {session next final middle : Session} {move : Move} {moves : List Move} {id : RepositoryId}
  {task gate : Nat} {repository : Repository} {stage stage' : Fetch}

/-! ### The store between two requests -/

theorem Store.fresh?_alter_wantsMore (store : Store) (id : RepositoryId) :
    (store.alter id fun cached => { cached with wantsMore := true }).fresh? id = none := by
  unfold alter
  cases held : store.cached.get? id with
  | none => rw [fresh?, held]; rfl
  | some cached => simp [fresh?]

/-- A page can be wanted for a repository. Nothing else changes but the mark of its rows. -/
theorem Leads.exists_wanting (id : RepositoryId) (session : Session) :
    ∃ next, Leads id session next ∧ (∀ task, next.fetchOf? task = session.fetchOf? task) ∧
      next.world.gates = session.world.gates ∧ next.world.store.fresh? id = none ∧
      Store.Keeps id session.world.store next.world.store ∧
      next.world.store.scope = session.world.store.scope := by
  obtain ⟨next, leads, world, fetches⟩ := exists_edit id session (.setWantsMore id true)
  have store := Edit.store_apply session.world (.setWantsMore id true)
  have gates := Edit.gates_apply session.world (.setWantsMore id true)
  rw [← world] at store gates
  refine ⟨next, leads, fetches, gates, ?_, ?_, ?_⟩ <;> rw [store]
  · exact Store.fresh?_alter_wantsMore session.world.store id
  · exact Deed.alter_keeps fun _ => ⟨rfl, rfl⟩
  · exact Store.scope_alter session.world.store id _

/-- A ticket that can still be valid becomes so when the scope is changed back. -/
theorem Leads.exists_valid {ticket : Ticket} (live : ticket.Live session.world.store id) :
    ∃ next, Leads id session next ∧ (∀ task, next.fetchOf? task = session.fetchOf? task) ∧
      next.world.gates = session.world.gates ∧ ticket.isValid next.world.store id = true := by
  obtain ⟨count, scope⟩ := live
  by_cases same : session.world.store.scope = ticket.scope
  · refine ⟨session, .refl session, fun _ => rfl, rfl, ?_⟩
    rw [Ticket.isValid, decide_eq_true count, decide_eq_true same, Bool.and_self]
  · have none := scope.resolve_left same
    obtain ⟨next, leads, world, fetches⟩ := exists_edit id session (.setScope ticket.scope)
    have store := Edit.store_apply session.world (.setScope ticket.scope)
    have gates := Edit.gates_apply session.world (.setScope ticket.scope)
    rw [← world] at store gates
    rw [Deed.store, if_neg same] at store
    refine ⟨next, leads, fetches, gates, ?_⟩
    obtain ⟨member, -⟩ | ⟨-, keeps⟩ :=
      Deed.setScope_drops_or_keeps session.world.store id ticket.scope
    · -- Nothing is stored that the change of the scope could drop.
      rw [Table.mem_keys_iff] at member
      exact absurd (Option.map_eq_none_iff.mp none) member
    · have back : (session.world.store.setScope ticket.scope).scope = ticket.scope :=
        Store.scope_foldl_invalidate _ _
      rw [store, Ticket.isValid, decide_eq_true (keeps.generation.trans count),
        decide_eq_true back, Bool.and_self]

/-! ### A fetch that lingers -/

/-- A fetch has a request in flight, and its repository uses the same turnstile as before. -/
structure Asks (id : RepositoryId) (session : Session) (task : Nat) (next : Session) : Prop where
  leads : Leads id session next
  current : next.world.gates.current = session.world.gates.current
  flies : next.Flies id task

namespace Asks

theorem of_leads (leads : Leads id session middle)
    (current : middle.world.gates.current = session.world.gates.current)
    (asks : ∃ next, Asks id middle task next) : ∃ next, Asks id session task next := by
  obtain ⟨next, later⟩ := asks
  exact ⟨next, leads.trans later.leads, later.current.trans current, later.flies⟩

/-- The fetch takes a step that leaves the store and the turnstiles in use as they are. -/
theorem of_step (reply : Option Reply) {world : World}
    (under : session.fetchOf? task = some (repository, stage))
    (advanced : stage.advance task repository session.world reply = some (world, stage'))
    (current : world.gates.current = session.world.gates.current)
    (asks : ∀ middle, middle.world = world →
      middle.fetchOf? task = stage'.underWay? repository → ∃ next, Asks id middle task next) :
    ∃ next, Asks id session task next := by
  obtain ⟨middle, leads, rfl, mine, -⟩ := Leads.exists_fetch id under advanced
  exact of_leads leads current (asks middle rfl mine)

/-- A request that could be stored again is in flight once the scope is changed back. -/
theorem of_request {ticket : Ticket} {lineage : Lineage}
    (under : session.fetchOf? task = some (repository, stage)) (same : repository.id = id)
    (asked : stage = .askPage gate ticket lineage ∨ ∃ page, stage = .keep gate ticket lineage page)
    (live : ticket.Live session.world.store id) : ∃ next, Asks id session task next := by
  obtain ⟨next, leads, fetches, gates, valid⟩ := Leads.exists_valid live
  exact ⟨next, leads, by rw [gates], repository, gate, ticket, lineage, stage,
    (fetches task).trans under, same, valid, asked⟩

theorem of_askLineage {ticket : Ticket}
    (under : session.fetchOf? task = some (repository, .askLineage gate ticket))
    (same : repository.id = id) (live : ticket.Live session.world.store id) :
    ∃ next, Asks id session task next := by
  refine of_step (some (.lineage (.ok (some sampleLineage)))) under rfl rfl ?_
  intro middle world mine
  exact of_request mine same (Or.inl rfl) (world ▸ live)

theorem of_note (under : session.fetchOf? task = some (repository, .note gate))
    (same : repository.id = id) : ∃ next, Asks id session task next := by
  subst same
  refine of_step none under rfl rfl ?_
  intro middle world mine
  refine of_askLineage mine rfl ⟨?_, Or.inl ?_⟩ <;> rw [world] <;> rfl

theorem of_recheck (under : session.fetchOf? task = some (repository, .recheck gate))
    (same : repository.id = id) : ∃ next, Asks id session task next := by
  -- With a page wanted no rows are fresh, and the fetch has to ask.
  obtain ⟨middle, leads, fetches, gates, fresh, -, -⟩ := Leads.exists_wanting id session
  have goes : (Fetch.recheck gate).advance task repository middle.world none =
      some (middle.world, .note gate) := by rw [Fetch.advance, same, fresh]
  refine of_leads leads (by rw [gates]) (of_step none ((fetches task).trans under) goes rfl ?_)
  intro noting _ mine
  exact of_note mine same

theorem of_waiting (queued : session.Queued)
    (under : session.fetchOf? task = some (repository, .waiting gate))
    (same : repository.id = id) : ∃ next, Asks id session task next := by
  obtain ⟨middle, leads, here, current, admitted⟩ := Leads.exists_first id queued under
  refine of_leads leads current (of_step none here (if_pos admitted) rfl ?_)
  intro inside _ mine
  exact of_recheck mine same

/-- A fetch that may still store a page can come to have a request in flight. -/
theorem exists_of_lingers (queued : session.Queued) (lingers : session.Lingers id task) :
    ∃ next, Asks id session task next := by
  obtain ⟨repository, stage, under, same, may⟩ := lingers
  cases stage with
  | lookup | findGate | drop _ _ | done _ => cases may
  | enter gate =>
    by_cases admitted : (session.world.gates.enter gate task).admits gate task = true
    · have goes : (Fetch.enter gate).advance task repository session.world none =
          some ({ session.world with gates := session.world.gates.enter gate task },
            .recheck gate) := by
        simp [Fetch.advance, admitted]
      exact of_step none under goes rfl fun _ _ mine => of_recheck mine same
    · have waits : (Fetch.enter gate).advance task repository session.world none =
          some ({ session.world with gates := session.world.gates.enter gate task },
            .waiting gate) := by
        simp [Fetch.advance, admitted]
      obtain ⟨middle, leads, world, mine, -⟩ := Leads.exists_fetch id under waits
      exact of_leads leads (by rw [world]; rfl) (of_waiting (leads.queued queued) mine same)
  | waiting gate => exact of_waiting queued under same
  | recheck gate => exact of_recheck under same
  | note gate => exact of_note under same
  | askLineage gate ticket => exact of_askLineage under same may
  | askPage gate ticket lineage => exact of_request under same (Or.inl rfl) may
  | keep gate ticket lineage page => exact of_request under same (Or.inr ⟨page, rfl⟩) may

end Asks

/-! ### A second request -/

/-- Whoever finds a new turnstile gets through at once. -/
theorem Gates.admits_enter_find {gates : Gates} (free : gates.current.get? id = Option.none)
    (task : Nat) :
    ((gates.find id).1.enter (gates.find id).2 task).admits (gates.find id).2 task = true := by
  have known : (gates.find id).2 < (gates.find id).1.turnstiles.length :=
    gates.find_lt_length fun gate held => by rw [free] at held; cases held
  have empty : gates.turnstile (gates.find id).2 = .free := by
    rw [find, free, turnstile, List.getD_eq_getElem?_getD, List.getElem?_eq_none Nat.le.refl]
    rfl
  rw [admits, turnstile_enter _ known, if_pos rfl, turnstile_find, empty]
  simp [Turnstile.admits, Turnstile.enter, Turnstile.free]

/-- The steps of a fetch one after the other, with what it is told. -/
def Fetch.run (task : Nat) (repository : Repository) (world : World) (stage : Fetch)
    (replies : List (Option Reply)) : Option (World × Fetch) :=
  replies.foldlM (fun now reply => now.2.advance task repository now.1 reply) (world, stage)

theorem Fetch.eq_done_of_run {world world' : World} {result : Except Fault (List Row)}
    {replies : List (Option Reply)}
    (ran : (done result).run task repository world replies = some (world', stage')) :
    stage' = .done result := by
  cases replies with
  | nil => cases ran; rfl
  | cons reply rest => cases ran

/-- Steps of a fetch can be made in the session one after the other. -/
theorem Leads.exists_run (id : RepositoryId) {replies : List (Option Reply)} {world : World}
    (under : session.fetchOf? task = some (repository, stage))
    (ran : stage.run task repository session.world replies = some (world, stage'))
    (alive : ∀ result, stage' ≠ .done result) :
    ∃ next, Leads id session next ∧ next.world = world ∧
      next.fetchOf? task = some (repository, stage') ∧
      ∀ other, other ≠ task → next.fetchOf? other = session.fetchOf? other := by
  induction replies generalizing session stage with
  | nil =>
    cases ran
    exact ⟨session, .refl session, rfl, under, fun _ _ => rfl⟩
  | cons reply rest ih =>
    obtain ⟨⟨world', between⟩, advanced, ran⟩ := Option.bind_eq_some_iff.mp ran
    obtain ⟨middle, first, rfl, mine, same⟩ := exists_fetch id under advanced
    -- A fetch that was over would take no further step.
    have here : middle.fetchOf? task = some (repository, between) := by
      cases between with
      | done result => exact absurd (Fetch.eq_done_of_run ran) (alive result)
      | _ => exact mine
    obtain ⟨next, second, world, there, others⟩ := ih here ran
    refine ⟨next, first.trans second, world, there, fun other different => ?_⟩
    rw [others other different, same other different]

/-- A fetch that finds neither rows nor a turnstile can go on until it has asked for a page. -/
theorem Fetch.run_of_free (task : Nat) {world : World} {source : Nat}
    (held : repository.source = some source) (fresh : world.store.fresh? repository.id = none)
    (free : world.gates.current.get? repository.id = none) (lineage : Lineage) :
    lookup.run task repository world
        (List.replicate 5 none ++ [some (Reply.lineage (.ok (some lineage)))]) =
      some ({ world with gates :=
            (world.gates.find repository.id).1.enter (world.gates.find repository.id).2 task },
        .askPage (world.gates.find repository.id).2 (.take world.store repository.id) lineage) := by
  simp [run, advance, held, fresh, Gates.admits_enter_find free]

/-- A second request joins the one in flight, if the repository uses no turnstile. -/
theorem exists_second (flies : session.Flies id task)
    (free : session.world.gates.current.get? id = none) :
    ∃ next, Leads id session next ∧ ¬ next.SingleFlight id := by
  obtain ⟨wanting, leads, fetches, gates, fresh, keeps, scope⟩ := Leads.exists_wanting id session
  obtain ⟨begun, newcomer, begins, world, new, mine, others⟩ :=
    Leads.exists_begin id wanting { sampleRepository with id }
  have source : ({ sampleRepository with id } : Repository).source = some 0 := rfl
  have ran := Fetch.run_of_free newcomer source fresh (gates ▸ free) sampleLineage
  rw [← world] at ran
  -- Nothing but the store decides whether a request counts, and the newcomer leaves it alone.
  obtain ⟨next, runs, last, asks, still⟩ :=
    Leads.exists_run id mine ran fun _ ended => nomatch ended
  refine ⟨next, leads.trans (begins.trans runs), fun single => ?_⟩
  have store : next.world.store = wanting.world.store := by rw [last, world]
  obtain ⟨repository, gate, ticket, lineage, stage, under, same, valid, asked⟩ := flies
  have different : task ≠ newcomer := by
    rintro rfl
    rw [← fetches task, new] at under
    cases under
  refine different (single task newcomer ?_ ?_)
  · refine ⟨repository, gate, ticket, lineage, stage, ?_, same, ?_, asked⟩
    · rw [still task different, others task different, fetches task, under]
    · rw [Ticket.isValid, store, keeps.generation, scope]
      exact valid
  · refine ⟨_, _, _, _, _, asks, rfl, ?_, Or.inl rfl⟩
    rw [store, world]
    simp [Ticket.isValid, Ticket.take]

/-- If the turnstile of a repository is forgotten while a fetch lingers, two requests can come to be
in flight. -/
theorem exists_overlap (queued : session.Queued) (lingers : session.Lingers id task)
    (free : session.world.gates.current.get? id = none) :
    ∃ next, Leads id session next ∧ ¬ next.SingleFlight id := by
  obtain ⟨middle, asks⟩ := Asks.exists_of_lingers queued lingers
  obtain ⟨next, leads, double⟩ := exists_second asks.flies (asks.current ▸ free)
  exact ⟨next, asks.leads.trans leads, double⟩

/-! ### Tidy runs are the ones without overlap -/

theorem Throughout.imp {first second : Session → Move → Prop}
    (weaker : ∀ session move, first session move → second session move)
    (throughout : session.Throughout first moves) : session.Throughout second moves := by
  induction moves generalizing session with
  | nil => trivial
  | cons move rest ih =>
    exact ⟨weaker session move throughout.1, fun next moved => ih (throughout.2 next moved)⟩

/-- A fetch still lingers when the turnstile has been forgotten. -/
theorem Lingers.of_forget (lingers : session.Lingers id task)
    (moved : session.move move = some next) (forgotten : session.deedOf move = .forget id) :
    next.Lingers id task ∧ next.world.gates.current.get? id = none := by
  cases Shift.of_move moved with
  | fetch under => exact absurd forgotten (Leads.deedOf_ne_forget under _)
  | deed _ fetches store gates _ =>
    rw [forgotten] at store gates
    constructor
    · obtain ⟨repository, stage, under, same, may⟩ := lingers
      obtain stayed | ⟨idle, -⟩ := fetches task
      · exact ⟨repository, stage, stayed.trans under, same, store.symm ▸ may⟩
      · rw [idle] at under
        cases under
    · rw [gates, Deed.gates, Gates.forget, Table.get?_erase, if_pos rfl]

/-- Requests for a repository never overlap, also later while its turnstile is remembered, exactly
if the run is tidy. And in a tidy run every page that is kept comes below the rows that are stored
when it is kept, so that no stored page is lost. -/
theorem singleFlight_iff_tidy {pageSize : Nat} {scope : Scope} (id : RepositoryId)
    (played : (new pageSize scope).play moves = some session) :
    ((new pageSize scope).Tidy id moves ↔
      ∀ earlier rest later middle final, moves = earlier ++ rest →
        (new pageSize scope).play earlier = some middle → middle.play later = some final →
        middle.Throughout (fun session move => session.deedOf move ≠ .forget id) later →
        final.SingleFlight id) ∧
    ((new pageSize scope).Tidy id moves →
      ∀ move next request page, session.move move = some next →
        .kept request page ∈ session.events move → request.repository = id →
        next.world.store.basis? id = some (request.lineage,
          (Ticket.take session.world.store id).grown request.lineage page)) := by
  refine ⟨⟨fun tidy earlier rest later middle final split before after remembered => ?_, ?_⟩,
    fun tidy move next request page moved event same => ?_⟩
  · -- A turnstile that is remembered keeps in order what a tidy run has left in order.
    subst split
    have guarded := Guarded.of_play (.new id pageSize scope) before
      ((throughout_append before).mp tidy).1
    have guarded := guarded.of_play after
      (remembered.imp fun _ _ other forgotten => absurd forgotten other)
    exact guarded.orderly.singleFlight guarded.queued
  · refine play_induction (fun moves _ => (∀ earlier rest later middle final,
      moves = earlier ++ rest → (new pageSize scope).play earlier = some middle →
      middle.play later = some final →
      middle.Throughout (fun session move => session.deedOf move ≠ .forget id) later →
      final.SingleFlight id) → (new pageSize scope).Tidy id moves) (fun _ => trivial) ?_ played
    intro moves middle move next before ih moved single
    refine (throughout_concat before).mpr ⟨ih fun earlier rest later start final split => ?_, ?_⟩
    · exact single earlier (rest ++ [move]) later start final (by rw [split, List.append_assoc])
    · -- The first move that is not tidy leaves a fetch behind, which another one can join.
      intro forgotten task lingers
      obtain ⟨lingers, free⟩ := lingers.of_forget moved forgotten
      have played := play_concat_of_move before moved
      obtain ⟨final, leads, double⟩ := exists_overlap (Queued.of_play played) lingers free
      obtain ⟨later, after, remembered⟩ := leads.exists_moves
      exact double (single (moves ++ [move]) [] later next final (List.append_nil _).symm played
        after remembered)
  · obtain ⟨task, repository, gate, ticket, under, asked, valid, basis⟩ :=
      exists_keep_of_kept moved event
    have here : repository.id = id := by rw [← same, asked]; rfl
    subst here
    have guarded := Guarded.of_play (.new repository.id pageSize scope) played tidy
    rw [basis, guarded.eq_take under rfl valid]

/-- While a fetch waits for a page, another one waits at the turnstile. -/
def contendedRun : List Move :=
  asking 0 sampleRepository sampleLineage ++
    .start (.fetch sampleRepository) :: List.replicate 3 (.advance 1 none)

theorem singleFlight_of_contendedRun :
    (new 1 .lineage).Tidy ⟨"r"⟩ contendedRun ∧
      (sampleAfter contendedRun).SingleFlight ⟨"r"⟩ := by
  have played : (new 1 .lineage).play contendedRun = some (sampleAfter contendedRun) := rfl
  have tidy : (new 1 .lineage).Tidy ⟨"r"⟩ contendedRun :=
    tidy_of_kept played (by simp [contendedRun, asking])
  have single := (singleFlight_iff_tidy ⟨"r"⟩ played).1.mp tidy
  exact ⟨tidy, single contendedRun [] [] _ _ (List.append_nil _).symm played rfl trivial⟩

/-- The repository is removed meanwhile. When the first fetch is over, the one that waits asks for a
page, and one that comes later finds a new turnstile and asks as well. -/
def overlapRun : List Move :=
  contendedRun ++ [.start (.remove ⟨"r"⟩), .advance 2 none, .advance 2 none] ++
    storing 0 (samplePage "1") ++ List.replicate 3 (.advance 1 none) ++
    .advance 1 (some (.lineage (.ok (some sampleLineage)))) ::
      asking 3 sampleRepository sampleLineage

/-- Two requests for one repository can be in flight, and each could be stored. -/
theorem not_singleFlight :
    ¬ ∀ (moves : List Move) (session : Session) (first second gate gate' : Nat)
      (ticket ticket' : Ticket) (lineage lineage' : Lineage),
      (new 1 .lineage).play moves = some session →
      session.fetchOf? first = some (sampleRepository, .askPage gate ticket lineage) →
      session.fetchOf? second = some (sampleRepository, .askPage gate' ticket' lineage') →
      ticket.isValid session.world.store ⟨"r"⟩ = true →
      ticket'.isValid session.world.store ⟨"r"⟩ = true → first = second := by
  intro single
  exact absurd (single overlapRun _ 1 3 0 1 _ _ _ _ rfl rfl rfl rfl rfl) (by decide)

end Session

end CommitHistory
