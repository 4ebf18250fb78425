/-
# The counts that notices tell

Whoever reads the notices knows how many commits of a repository are cached: the total of the last
page that was stored, or none after the rows were dropped. Each move is told in one of five ways.
Only two of them part what is told from what is there: a fetch that finds no lineage drops the
rows without a word, and a removal speaks in its second step of what it did in its first.

## Main definitions

* `toldCount` — the count that notices tell.
* `Session.Removing` — a removal of a repository is half done.
* `Session.Discards` — a fetch drops rows without a word.
* `Session.Candid` — runs in which nothing is lost in the two ways that are not told.

## Main results

* `Session.Entry.of_move` — what a move does to the count, and what it tells of it.
* `Session.tells_iff_candid` — the notices tell the count exactly in candid runs.
* `Session.candid_of_found` — runs in which a lineage is always found are candid.
-/

import CommitHistory.Proofs.Session.Mirror

namespace CommitHistory.Session

/-! ### What notices tell -/

/-- The count of a repository that a notice tells. -/
def Notice.total? (id : RepositoryId) : Notice → Option Nat
  | .loaded other _ total => if other = id then some total else none
  | .cleared other | .removed other => if other = id then some 0 else none
  | .scope _ => some 0
  | .added _ | .selected _ => none

/-- The count that is known after one more notice. -/
def tell (id : RepositoryId) (total : Nat) (notice : Notice) : Nat :=
  (notice.total? id).getD total

/-- The count of a repository that notices tell: that of the last notice that tells one. -/
def toldCount (id : RepositoryId) (notices : List Notice) : Nat := notices.foldl (tell id) 0

variable {id : RepositoryId} {notices more : List Notice}

theorem toldCount_append (notices more : List Notice) :
    toldCount id (notices ++ more) = more.foldl (tell id) (toldCount id notices) :=
  List.foldl_append

/-- Notices that tell nothing of a repository change nothing about what is known. -/
theorem foldl_tell_of_silent (silent : ∀ notice ∈ more, notice.total? id = none) (total : Nat) :
    more.foldl (tell id) total = total := by
  induction more with
  | nil => rfl
  | cons notice rest ih =>
    have later := ih fun notice member => silent notice (List.mem_cons_of_mem _ member)
    rw [List.foldl_cons, tell, silent notice List.mem_cons_self, Option.getD_none, later]

theorem Store.count_eq (store : Store) (id : RepositoryId) :
    store.count id = ((store.basis? id).map fun basis => basis.2.size).getD 0 := by
  rw [count, basis?, Option.map_map]
  rfl

theorem Store.Drops.count_eq {before after : Store} (drops : Store.Drops id before after) :
    after.count id = 0 := by
  rw [Store.count_eq, drops.basis]
  rfl

theorem Store.Keeps.count_eq {before after : Store} (keeps : Store.Keeps id before after) :
    after.count id = before.count id := by
  rw [Store.count_eq, keeps.basis, Store.count_eq]

/-! ### Publications -/

variable {session next : Session} {move : Move} {moves : List Move} {task : Nat}
  {reply : Option Reply}

theorem publication_of_fetch {repository : Repository} {stage : Fetch}
    (under : session.fetchOf? task = some (repository, stage)) :
    session.publication (.advance task reply) = stage.published repository session.world := by
  obtain ⟨activity, held, fetch⟩ := Option.bind_eq_some_iff.mp under
  rw [publication, held, Option.map_some, Option.getD_some, Activity.published]
  · rw [fetch]
    rfl
  · rintro id notices rfl
    cases fetch

/-- Outside fetches a move publishes what its deed does, or what a removal has withheld. -/
theorem publication_of_deed (nothing : session.moved? move = none) :
    ((∀ id, session.deedOf move ≠ .forget id) ∧
        session.publication move = (session.deedOf move).published session.world.store) ∨
      ∃ task reply id notices, move = .advance task reply ∧
        session.activities[task]? = some (.remove (.forgetGate id notices)) ∧
        session.publication move = .removed id :: notices := by
  cases move with
  | start call => exact .inl ⟨by rintro _ ⟨⟩, rfl⟩
  | advance task reply =>
    cases held : session.activities[task]? with
    | none =>
      have rest : session.deedOf (.advance task reply) = .rest := by rw [deedOf, held]; rfl
      refine .inl ⟨rest ▸ by rintro _ ⟨⟩, ?_⟩
      rw [publication, rest, held]
      rfl
    | some activity =>
      have idle : activity.fetch? = none := by
        rw [moved?, fetchOf?, held] at nothing
        exact nothing
      have deed : session.deedOf (.advance task reply) = activity.deed session.world := by
        rw [deedOf, held]
        rfl
      have published : session.publication (.advance task reply) =
          activity.published session.world := by
        rw [publication, held]
        rfl
      by_cases withholds : ∃ id notices, activity = .remove (.forgetGate id notices)
      · obtain ⟨id, notices, rfl⟩ := withholds
        exact .inr ⟨task, reply, id, notices, rfl, held, published⟩
      · refine .inl ⟨fun id forgets => withholds ?_, ?_⟩
        · have removes := Activity.removes?_deed session.world activity
          rw [← deed, forgets] at removes
          cases activity with
          | remove stage =>
            cases stage with
            | forgetGate id notices => exact ⟨id, notices, rfl⟩
            | _ => cases deed.symm.trans forgets
          | _ => cases removes
        · rw [published, deed, Activity.published]
          · rw [idle]
            rfl
          · intro id notices same
            exact withholds ⟨id, notices, same⟩

/-! ### Removals that are half done -/

/-- A removal of a repository is half done. -/
def Removing (id : RepositoryId) (session : Session) : Prop :=
  ∃ (task : Nat) (notices : List Notice),
    session.activities[task]? = some (.remove (.forgetGate id notices))

/-- What removals withhold is selections. -/
def Modest (session : Session) : Prop :=
  ∀ (task : Nat) (id : RepositoryId) (notices : List Notice),
    session.activities[task]? = some (.remove (.forgetGate id notices)) →
      ∀ notice ∈ notices, ∃ selected, notice = .selected selected

theorem World.selected_of_mem_selectionNotices {before after : Store} {notice : Notice}
    (member : notice ∈ World.selectionNotices before after) :
    ∃ selected, notice = .selected selected := by
  rw [World.selectionNotices] at member
  split at member
  · cases member
  · exact ⟨_, List.mem_singleton.mp member⟩

/-- A removal that is half done after a move was so before, or the move is its first step. -/
theorem activities_of_removing {notices : List Notice} (moved : session.move move = some next)
    (held : next.activities[task]? = some (.remove (.forgetGate id notices))) :
    session.activities[task]? = some (.remove (.forgetGate id notices)) ∨
      session.deedOf move = .remove id ∧
        notices = World.selectionNotices session.world.store (session.world.store.remove id) := by
  cases Turn.of_move moved with
  | start call =>
    rw [start, List.getElem?_append] at held
    split at held
    next => exact .inl held
    next =>
      -- No call begins half done.
      have begun := List.mem_singleton.mp (List.mem_of_getElem? held)
      cases call <;> cases begun
  | @advance mover reply before after world was stepped =>
    rw [List.getElem?_set] at held
    split at held
    next same =>
      subst same
      split at held
      next =>
        obtain rfl := Option.some.inj held
        obtain ⟨other, rfl⟩ := Activity.exists_start_of_withheld stepped (by rintro ⟨⟩)
        cases reply <;> cases stepped
        exact .inr ⟨by rw [deedOf, was]; rfl, rfl⟩
      next => cases held
    next => exact .inl held

theorem Modest.of_move (modest : session.Modest) (moved : session.move move = some next) :
    next.Modest := by
  intro task id notices held
  rcases activities_of_removing moved held with was | ⟨-, rfl⟩
  · exact modest task id notices was
  · exact fun _ => World.selected_of_mem_selectionNotices

theorem Modest.of_play {pageSize : Nat} {scope : Scope}
    (played : (new pageSize scope).play moves = some session) : session.Modest :=
  play_induction (fun _ session => session.Modest) (fun _ _ _ held => by cases held)
    (fun _ _ _ _ _ modest moved => modest.of_move moved) played

theorem Removing.of_move (removing : next.Removing id) (moved : session.move move = some next) :
    session.Removing id ∨ session.deedOf move = .remove id := by
  obtain ⟨task, notices, held⟩ := removing
  rcases activities_of_removing moved held with was | ⟨deed, -⟩
  · exact .inl ⟨task, notices, was⟩
  · exact .inr deed

/-- A removal stays half done until its second step. -/
theorem Removing.stays (removing : session.Removing id) (moved : session.move move = some next)
    (other : session.deedOf move ≠ .forget id) : next.Removing id := by
  obtain ⟨task, notices, held⟩ := removing
  by_cases mover : task = session.mover move
  · cases Turn.of_move moved with
    | start call =>
      rw [mover, Session.mover, List.getElem?_eq_none Nat.le.refl] at held
      cases held
    | @advance _ reply before after world was stepped =>
      obtain rfl := mover
      obtain rfl := Option.some.inj (was.symm.trans held)
      exact absurd (by rw [deedOf, was]; rfl) other
  · exact ⟨task, notices, (activities_of_other moved mover).trans held⟩

theorem removing_of_deed (moved : session.move move = some next)
    (deed : session.deedOf move = .remove id) : next.Removing id := by
  cases Turn.of_move moved with
  | start call => cases deed
  | @advance mover reply before after world was stepped =>
    have removes : before.deed session.world = .remove id := by
      rw [← deed, deedOf, was]
      rfl
    obtain ⟨inside, -⟩ := List.getElem?_eq_some_iff.mp was
    rcases Activity.isOfRows_deed session.world before with ⟨change, rfl⟩ | ⟨stage, rfl⟩ | rows
    · cases removes
    · cases stage with
      | start other =>
        cases removes
        cases reply <;> cases stepped
        exact ⟨mover, _, List.getElem?_set_self inside⟩
      | _ => cases removes
    · rw [removes] at rows
      cases rows

/-! ### What a move does and what it tells -/

/-- A fetch that has found no lineage drops the rows of a repository, and says nothing. -/
def Discards (id : RepositoryId) (session : Session) (move : Move) : Prop :=
  ∃ task repository gate ticket, move = .advance task none ∧
    session.fetchOf? task = some (repository, .drop gate ticket) ∧ repository.id = id ∧
    session.world.store.generation id = ticket.generation

/-- A move whose notices do not tell the count that it leaves: a fetch drops the rows, or a removal
speaks of what it did before. -/
def Mistells (id : RepositoryId) (session : Session) (move : Move) : Prop :=
  session.Discards id move ∨ session.deedOf move = .forget id

theorem deedOf_of_fetch {repository : Repository} {stage : Fetch}
    (under : session.fetchOf? task = some (repository, stage)) :
    session.deedOf (.advance task reply) ≠ .forget id := by
  intro forgets
  obtain ⟨activity, held, fetch⟩ := Option.bind_eq_some_iff.mp under
  have deed : activity.deed session.world = .forget id := by
    rw [← forgets, deedOf, held]
    rfl
  have removes := Activity.removes?_deed session.world activity
  rw [deed] at removes
  cases activity with
  | remove _ => cases fetch
  | _ => cases removes

/-- What a move does to the count of a repository and what it tells of it. -/
inductive Entry (id : RepositoryId) (session : Session) (move : Move) (next : Session) : Prop
  | agrees (plain : ¬ session.Mistells id move)
      (tells : next.world.store.count id = toldCount id next.world.notices)
  | untouched (plain : ¬ session.Mistells id move)
      (count : next.world.store.count id = session.world.store.count id)
      (silent : toldCount id next.world.notices = toldCount id session.world.notices)
  | discarded (discards : session.Discards id move) (count : next.world.store.count id = 0)
      (silent : toldCount id next.world.notices = toldCount id session.world.notices)
  | removed (deed : session.deedOf move = .remove id)
  | forgotten (deed : session.deedOf move = .forget id)
      (count : next.world.store.count id = session.world.store.count id)
      (tells : toldCount id next.world.notices = 0)

/-- A deed other than the removal of the repository tells the count that it leaves, or neither
changes it nor tells one. -/
theorem Deed.tells {deed : Deed} (other : deed ≠ .remove id) (store : Store) (total : Nat) :
    (deed.store store).count id = (deed.published store).foldl (tell id) total ∨
      (deed.store store).count id = store.count id ∧
        (deed.published store).foldl (tell id) total = total := by
  have selections (after : Store) : ∀ notice ∈ World.selectionNotices store after,
      notice.total? id = none := by
    intro notice member
    obtain ⟨selected, rfl⟩ := World.selected_of_mem_selectionNotices member
    rfl
  have alter {name : RepositoryId} {change : Cached → Cached}
      (marks : ∀ cached, (change cached).lineage = cached.lineage ∧
        (change cached).graph = cached.graph) :
      (store.alter name change).count id = store.count id :=
    (Deed.alter_keeps marks).count_eq
  cases deed with
  | rest | forget _ => exact .inr ⟨rfl, rfl⟩
  | mark name | unmark name => exact .inr ⟨alter fun _ => ⟨rfl, rfl⟩, rfl⟩
  | remove name =>
    obtain ⟨member, -⟩ | ⟨-, keeps⟩ := remove_drops_or_keeps store id name
    · exact absurd (congrArg Deed.remove (List.mem_singleton.mp member).symm) other
    · exact .inr ⟨keeps.count_eq, rfl⟩
  | edit change =>
    cases change with
    | add repository =>
      refine .inr ⟨rfl, foldl_tell_of_silent (fun notice member => ?_) total⟩
      rcases List.mem_cons.mp member with rfl | member
      · rfl
      · exact selections _ notice member
    | choose _ | activate _ => exact .inr ⟨rfl, foldl_tell_of_silent (selections _) total⟩
    | setWantsMore name _ => exact .inr ⟨alter fun _ => ⟨rfl, rfl⟩, rfl⟩
    | clear name =>
      obtain ⟨member, drops⟩ | ⟨different, keeps⟩ := invalidate_drops_or_keeps store id name
      · obtain rfl := List.mem_singleton.mp member
        refine .inl (drops.count_eq.trans ?_)
        simp [Deed.published, Edit.published, tell, Notice.total?]
      · have name : name ≠ id := fun same => different (List.mem_singleton.mpr same.symm)
        refine .inr ⟨keeps.count_eq, ?_⟩
        simp [Deed.published, Edit.published, tell, Notice.total?, name]
    | setScope scope =>
      rw [Deed.store, Deed.published, Edit.published]
      split
      · exact .inr ⟨rfl, rfl⟩
      · -- A new scope leaves no rows, whether or not there were any.
        refine .inl ?_
        obtain ⟨-, drops⟩ | ⟨absent, keeps⟩ := setScope_drops_or_keeps store id scope
        · exact drops.count_eq
        · refine keeps.count_eq.trans ?_
          have none : store.cached.get? id = none := by
            rw [Option.eq_none_iff_forall_ne_some]
            exact fun _ found => absent (Table.mem_keys_of_get?_eq_some found)
          rw [Store.count, none]
          rfl

theorem Fetch.Steps.entry {repository : Repository} {stage stage' : Fetch}
    (steps : Fetch.Steps task repository session.world stage reply next.world stage')
    (under : session.fetchOf? task = some (repository, stage)) :
    Entry id session (.advance task reply) next := by
  have deed : session.deedOf (.advance task reply) ≠ .forget id := deedOf_of_fetch under
  have plain (other : ∀ gate ticket, stage = .drop gate ticket → repository.id = id → reply = none →
      session.world.store.generation id ≠ ticket.generation) :
      ¬ session.Mistells id (.advance task reply) := by
    rintro (⟨_, _, gate, ticket, mover, found, same, current⟩ | forgets)
    · cases mover
      obtain ⟨rfl, drop⟩ := Prod.mk.inj (Option.some.inj (under.symm.trans found))
      exact other gate ticket drop same rfl current
    · exact deed forgets
  generalize now : next.world = world at steps
  cases steps with
  | @drop gate ticket current =>
    obtain ⟨member, drops⟩ | ⟨different, keeps⟩ :=
      Deed.invalidate_drops_or_keeps session.world.store id repository.id
    · obtain rfl := List.mem_singleton.mp member
      refine .discarded ⟨task, repository, gate, ticket, rfl, under, rfl, current⟩ ?_ ?_
      · rw [now]
        exact drops.count_eq
      · rw [now]
    · refine .untouched (plain fun _ _ _ same => ?_) ?_ ?_
      · exact absurd (List.mem_singleton.mpr same.symm) different
      · rw [now]
        exact keeps.count_eq
      · rw [now]
  | @keep gate ticket lineage page valid =>
    have notices : next.world.notices = session.world.notices ++
        [.loaded repository.id page.length (ticket.grown lineage page).size] := by
      rw [now]
      rfl
    have cached : next.world.store.basis? id =
        if id = repository.id then some (lineage, ticket.grown lineage page)
        else session.world.store.basis? id := by
      rw [now]
      exact Fetch.basis?_store session.world _ id lineage (ticket.grown lineage page) page.length
    by_cases same : id = repository.id
    · refine .agrees (plain (by rintro _ _ ⟨⟩)) ?_
      rw [if_pos same] at cached
      rw [Store.count_eq, cached, notices, toldCount_append]
      simp [tell, Notice.total?, same]
    · rw [if_neg same] at cached
      refine .untouched (plain (by rintro _ _ ⟨⟩)) ?_ ?_
      · rw [Store.count_eq, cached, Store.count_eq]
      · rw [notices, toldCount_append]
        simp [tell, Notice.total?, Ne.symm same]
  | leave _ silent _ =>
    refine .untouched (plain ?_) (by rw [now]) (by rw [now])
    rintro gate ticket rfl rfl rfl current
    rw [Fetch.events, if_pos current] at silent
    cases silent
  | _ => exact .untouched (plain (by rintro _ _ ⟨⟩)) (by rw [now]) (by rw [now])

theorem Entry.of_move (modest : session.Modest) (moved : session.move move = some next) :
    Entry id session move next := by
  cases Shift.of_move moved with
  | fetch under advanced world _ _ =>
    subst world
    exact (Fetch.Steps.of_advance advanced).entry under
  | deed nothing _ store _ _ =>
    have known := congrArg (toldCount id) (notices_of_move moved)
    have idle : ¬ session.Discards id move := by
      rintro ⟨task, repository, gate, ticket, rfl, under, -⟩
      cases nothing.symm.trans under
    rw [toldCount_append] at known
    rcases publication_of_deed nothing with
      ⟨spares, published⟩ | ⟨task, reply, other, withheld, rfl, held, published⟩
    · have plain : ¬ session.Mistells id move := not_or.mpr ⟨idle, spares id⟩
      rw [published] at known
      by_cases removal : session.deedOf move = .remove id
      · exact .removed removal
      · obtain tells | ⟨count, silent⟩ :=
          Deed.tells removal session.world.store (toldCount id session.world.notices)
        · exact .agrees plain (by rw [store, known, tells])
        · exact .untouched plain (store ▸ count) (known.trans silent)
    · have deed : session.deedOf (.advance task reply) = .forget other := by
        rw [deedOf, held]
        rfl
      rw [deed] at store
      have silent : ∀ notice ∈ withheld, notice.total? id = none := by
        intro notice member
        obtain ⟨selected, rfl⟩ := modest task other withheld held notice member
        rfl
      rw [published, List.foldl_cons, foldl_tell_of_silent silent] at known
      by_cases same : other = id
      · subst same
        refine .forgotten deed (congrArg (Store.count · other) store) ?_
        simpa [tell, Notice.total?] using known
      · have plain : ¬ session.Mistells id (.advance task reply) := by
          refine not_or.mpr ⟨idle, fun forgets => same ?_⟩
          exact Deed.forget.inj (deed.symm.trans forgets)
        refine .untouched plain (congrArg (Store.count · id) store) ?_
        simpa [tell, Notice.total?, same] using known

/-- If the count was told before a move, it is told after it unless a mistold one was lost. -/
theorem Entry.tells_iff (entry : Entry id session move next)
    (moved : session.move move = some next)
    (known : ¬ session.Removing id →
      session.world.store.count id = toldCount id session.world.notices)
    (rests : ¬ next.Removing id) :
    next.world.store.count id = toldCount id next.world.notices ↔
      (session.Mistells id move → session.world.store.count id = 0) := by
  have rested (other : session.deedOf move ≠ .forget id) :
      session.world.store.count id = toldCount id session.world.notices :=
    known fun removing => rests (removing.stays moved other)
  cases entry with
  | agrees plain tells => exact iff_of_true tells fun mistells => absurd mistells plain
  | untouched plain count silent =>
    have same := rested fun forgets => plain (.inr forgets)
    exact iff_of_true (by rw [count, silent, same]) fun mistells => absurd mistells plain
  | discarded discards count silent =>
    have same : session.world.store.count id = toldCount id session.world.notices := by
      obtain ⟨_, _, _, _, rfl, under, -⟩ := discards
      exact rested (deedOf_of_fetch under)
    rw [count, silent, ← same]
    exact ⟨fun none _ => none.symm, fun none => (none (.inl discards)).symm⟩
  | removed deed => exact absurd (removing_of_deed moved deed) rests
  | forgotten deed count tells =>
    rw [count, tells]
    exact ⟨fun none _ => none, fun none => none (.inr deed)⟩

/-! ### Candid runs -/

/-- At every point of a run at which no removal of a repository is half done the notices tell its
count. -/
def Tells (id : RepositoryId) (session : Session) (moves : List Move) : Prop :=
  ∀ earlier later middle, moves = earlier ++ later → session.play earlier = some middle →
    ¬ middle.Removing id → middle.world.store.count id = toldCount id middle.world.notices

/-- Nothing is lost without a word: when a fetch has found no lineage or a removal ends, and no
removal is half done then, there are no commits that would be lost. -/
def Candid (id : RepositoryId) : Session → List Move → Prop :=
  Throughout fun session move => ∀ next, session.move move = some next → ¬ next.Removing id →
    session.Mistells id move → session.world.store.count id = 0

theorem Tells.now (tells : session.Tells id moves) (played : session.play moves = some next) :
    ¬ next.Removing id → next.world.store.count id = toldCount id next.world.notices :=
  tells moves [] next (List.append_nil _).symm played

theorem tells_concat {middle : Session} (played : session.play moves = some middle)
    (moved : middle.move move = some next) :
    session.Tells id (moves ++ [move]) ↔ session.Tells id moves ∧
      (¬ next.Removing id → next.world.store.count id = toldCount id next.world.notices) := by
  have whole := play_concat_of_move played moved
  constructor
  · intro tells
    refine ⟨fun earlier later before split => ?_, tells.now whole⟩
    exact tells earlier (later ++ [move]) before (by rw [split, List.append_assoc])
  · rintro ⟨tells, last⟩ earlier later before split reached
    -- A run up to some point of the longer run is the longer run, or a part of the shorter one.
    rcases List.eq_nil_or_concat later with rfl | ⟨rest, other, rfl⟩
    · rw [List.append_nil] at split
      subst split
      obtain rfl := Option.some.inj (whole.symm.trans reached)
      exact last
    · rw [List.concat_eq_append, ← List.append_assoc] at split
      exact tells earlier rest before (List.append_inj_left' split rfl) reached

variable {pageSize : Nat} {scope : Scope}

theorem tells_iff_candid (played : (new pageSize scope).play moves = some session) :
    (new pageSize scope).Tells id moves ↔ (new pageSize scope).Candid id moves := by
  refine play_induction (fun moves _ => (new pageSize scope).Tells id moves ↔
    (new pageSize scope).Candid id moves) ?start
    (fun moves middle move next before ih moved => ?step) played
  case start =>
    refine iff_of_true (fun earlier later middle split reached _ => ?_) trivial
    obtain ⟨rfl, -⟩ := List.append_eq_nil_iff.mp split.symm
    obtain rfl := Option.some.inj reached
    rfl
  case step =>
    rw [tells_concat before moved, Candid, throughout_concat before, ← Candid, ← ih]
    refine and_congr_right fun tells => ?_
    have entry : Entry id middle move next := .of_move (Modest.of_play before) moved
    constructor
    · intro last other moved' rests
      obtain rfl := Option.some.inj (moved.symm.trans moved')
      exact (entry.tells_iff moved (tells.now before) rests).mp (last rests)
    · intro candid rests
      exact (entry.tells_iff moved (tells.now before) rests).mpr (candid next moved rests)

/-! ### Runs in which a lineage is found -/

/-- In a run in which no source says that there is no lineage, no fetch is about to drop rows. -/
theorem not_drop_of_play (played : (new pageSize scope).play moves = some session)
    (found : ∀ task, .advance task (some (.lineage (.ok none))) ∉ moves) {task : Nat}
    {repository : Repository} {gate : Nat} {ticket : Ticket} :
    session.fetchOf? task ≠ some (repository, .drop gate ticket) := by
  refine play_induction (fun moves session =>
    (∀ task, Move.advance task (some (.lineage (.ok none))) ∉ moves) →
      session.fetchOf? task ≠ some (repository, .drop gate ticket))
    (fun _ under => ?_) (fun moves middle move next _ ih moved found under => ?_) played found
  · rw [fetchOf?_new] at under
    cases under
  obtain ⟨stayed, -⟩ | stage | ⟨reply, before, rfl, -, steps⟩ := fetch_of_move moved under
  · exact ih (fun task member => found task (List.mem_append_left _ member)) stayed
  · cases stage
  · -- Only the reply that there is no lineage leads to this stage.
    generalize next.world = world at steps
    cases steps
    exact found task (List.mem_append_right moves (List.mem_singleton_self _))

/-- If a lineage is found whenever one is asked for, and nobody asks for the removal of a
repository, none of its commits are lost without a word. -/
theorem candid_of_found (played : (new pageSize scope).play moves = some session)
    (kept : .start (.remove id) ∉ moves)
    (found : ∀ task, .advance task (some (.lineage (.ok none))) ∉ moves) :
    (new pageSize scope).Candid id moves := by
  refine play_induction (fun moves _ => Move.start (.remove id) ∉ moves →
    (∀ task, Move.advance task (some (.lineage (.ok none))) ∉ moves) →
      (new pageSize scope).Candid id moves)
    (fun _ _ => trivial) (fun moves middle move next before ih moved kept found => ?_)
    played kept found
  have earlierKept : .start (.remove id) ∉ moves := fun member =>
    kept (List.mem_append_left _ member)
  have earlierFound (task : Nat) : .advance task (some (.lineage (.ok none))) ∉ moves :=
    fun member => found task (List.mem_append_left _ member)
  refine (throughout_concat before).mpr ⟨ih earlierKept earlierFound, fun _ _ _ mistells => ?_⟩
  obtain ⟨task, repository, gate, ticket, -, under, -⟩ | forgets := mistells
  · exact absurd under (not_drop_of_play before earlierFound)
  · refine absurd ?_ ((Sparing.of_play before earlierKept).removes?_deedOf move)
    rw [forgets]
    rfl

/-! ### Drops and replacements -/

/-- A move that drops or replaces the rows of a repository says so, or is the first step of a
removal, or is a fetch that drops them without a word. -/
theorem announced_of_changed (moved : session.move move = some next)
    (changed : next.world.store.basis? id ≠ session.world.store.basis? id) :
    (∃ notice ∈ session.publication move, (notice.total? id).isSome = true) ∨
      session.deedOf move = .remove id ∨ session.Discards id move := by
  cases Fate.of_move id moved with
  | @kept task gate repository ticket lineage page reply mover under same valid =>
    subst mover same
    refine .inl ⟨.loaded repository.id page.length (ticket.grown lineage page).size, ?_, ?_⟩
    · rw [publication_of_fetch under, Fetch.published, if_pos valid]
      exact List.mem_singleton_self _
    · simp [Notice.total?]
  | dropped _ event =>
    cases move with
    | start call => cases event
    | advance task reply =>
      have published {deed : Deed} (nothing : session.fetchOf? task = none)
          (does : session.deedOf (.advance task reply) = deed) (other : ∀ id, deed ≠ .forget id) :
          session.publication (.advance task reply) = deed.published session.world.store := by
        have idle : session.moved? (.advance task reply) = none := nothing
        rcases publication_of_deed idle with ⟨-, published⟩ | ⟨_, _, name, _, mover, held, -⟩
        · rw [published, does]
        · cases mover
          refine absurd ?_ (other name)
          rw [← does, deedOf, held]
          rfl
      rcases dropped_mem_events_iff.mp event with
        ⟨nothing, clear | remove | ⟨scope, sets, different, -⟩⟩ |
        ⟨repository, gate, ticket, under, rfl, same, current⟩
      · refine .inl ⟨.cleared id, ?_, by simp [Notice.total?]⟩
        rw [published nothing clear (by rintro _ ⟨⟩)]
        exact List.mem_singleton_self _
      · exact .inr (.inl remove)
      · refine .inl ⟨.scope scope, ?_, rfl⟩
        rw [published nothing sets (by rintro _ ⟨⟩), Deed.published, Edit.published,
          if_neg different]
        exact List.mem_singleton_self _
      · exact .inr (.inr ⟨task, repository, gate, ticket, rfl, under, same, current⟩)
  | spared keeps => exact absurd keeps.basis changed

theorem throughout_of_forall {holds : Session → Move → Prop}
    (all : ∀ session move, holds session move) (session : Session) (moves : List Move) :
    session.Throughout holds moves := by
  induction moves generalizing session with
  | nil => trivial
  | cons move rest ih => exact ⟨all session move, fun next _ => ih next⟩

/-- Whenever no removal of a repository is half done the notices tell its count, exactly in the
runs in which no commits are lost to a fetch that has found no lineage or to a removal that ends.
In every run the rows are dropped or replaced with a notice, except by such a fetch and by a
removal, which speaks later. -/
theorem counts_told_iff_candid (id : RepositoryId)
    (played : (new pageSize scope).play moves = some session) :
    ((new pageSize scope).Tells id moves ↔ (new pageSize scope).Candid id moves) ∧
    (new pageSize scope).Throughout (fun session move => ∀ next, session.move move = some next →
      next.world.store.basis? id ≠ session.world.store.basis? id →
      (∃ notice ∈ session.publication move, (notice.total? id).isSome = true) ∨
        session.deedOf move = .remove id ∨ session.Discards id move) moves := by
  refine ⟨tells_iff_candid played, throughout_of_forall ?_ _ _⟩
  intro session move next moved changed
  exact announced_of_changed moved changed

theorem counts_told_sampleRun :
    (new 1 .lineage).play sampleRun = some (sampleAfter sampleRun) ∧
    ((new 1 .lineage).Tells ⟨"r"⟩ sampleRun ↔ (new 1 .lineage).Candid ⟨"r"⟩ sampleRun) ∧
    (new 1 .lineage).Candid ⟨"r"⟩ sampleRun ∧
    (sampleAfter sampleRun).world.store.count ⟨"r"⟩ = 1 ∧
    toldCount ⟨"r"⟩ (sampleAfter sampleRun).world.notices = 1 := by
  have played : (new 1 .lineage).play sampleRun = some (sampleAfter sampleRun) := rfl
  have kept : .start (.remove ⟨"r"⟩) ∉ sampleRun := by
    simp [sampleRun, asking, storing]
  have found (task : Nat) : .advance task (some (.lineage (.ok none))) ∉ sampleRun := by
    simp [sampleRun, asking, storing]
  exact ⟨played, (counts_told_iff_candid ⟨"r"⟩ played).1, candid_of_found played kept found,
    by decide, by decide⟩

/-- A page is stored and one more is wanted, but then the source finds no lineage. -/
def lostRun : List Move :=
  sampleRun ++ [.start (.edit (.setWantsMore ⟨"r"⟩ true)), .advance 1 none,
    .start (.fetch sampleRepository)] ++
  (List.replicate 5 none ++ [some (Reply.lineage (.ok none)), none]).map (.advance 2)

/-- Every call is over and nothing was ever removed, but the notices tell of a commit that is not
there any more. -/
theorem not_tells_lostRun :
    (∃ session, (new 1 .lineage).play lostRun = some session ∧
      session.activities.all (·.result?.isSome) = true ∧
      session.world.store.count ⟨"r"⟩ = 0 ∧ toldCount ⟨"r"⟩ session.world.notices = 1) ∧
    ¬ (new 1 .lineage).Tells ⟨"r"⟩ lostRun := by
  have played : (new 1 .lineage).play lostRun = some (sampleAfter lostRun) := rfl
  have ended : (sampleAfter lostRun).activities.all (·.result?.isSome) = true := by decide
  have count : (sampleAfter lostRun).world.store.count ⟨"r"⟩ = 0 := by decide
  have known : toldCount ⟨"r"⟩ (sampleAfter lostRun).world.notices = 1 := by decide
  refine ⟨⟨_, played, ended, count, known⟩, fun tells => ?_⟩
  have rests : ¬ (sampleAfter lostRun).Removing ⟨"r"⟩ := by
    rintro ⟨task, notices, held⟩
    have result := List.all_eq_true.mp ended _ (List.mem_of_getElem? held)
    cases result
  have same := tells.now played rests
  rw [count, known] at same
  cases same

end CommitHistory.Session
