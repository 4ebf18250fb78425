/-
# Fetches go on

A step of the fetch that is under way in an activity is always a step of the activity, so
nothing but its turnstile and its source can hold a fetch up. Whoever is inside a
turnstile can leave it alone, at the latest when its source refuses to answer, and so
everybody who waits comes to be first.

## Main definitions

* `Session.Leads` — one session comes from another while a turnstile is remembered.

## Main results

* `Session.Leads.exists_fetch` — a step of a fetch can be made in the session.
* `Session.Leads.exists_leave` — the first task at a turnstile can leave it.
* `Session.Leads.exists_first` — every task that waits at a turnstile can become the first.
-/

import CommitHistory.Proofs.Session.SingleFlight

namespace CommitHistory.Session

/-! ### Steps of the activity around a fetch -/

section

variable {task : Nat} {world : World} {reply : Option Reply} {repository : Repository}
  {fetch : Fetch}

theorem LoadMore.isSome_advance {stage : LoadMore} {other : Repository}
    (under : stage.fetch? other = some (repository, fetch))
    (goes : (fetch.advance task repository world reply).isSome) :
    (stage.advance task other world reply).isSome := by
  cases stage with
  | fetching inner =>
    obtain ⟨rfl, rfl⟩ := Fetch.eq_of_underWay? under
    simpa [advance] using goes
  | _ => cases under

theorem Children.isSome_advance {stage : Children} (under : stage.fetch? = some (repository, fetch))
    (goes : (fetch.advance task repository world reply).isSome) :
    (stage.advance task world reply).isSome := by
  cases stage with
  | fetching other inner =>
    obtain ⟨rfl, rfl⟩ := Fetch.eq_of_underWay? under
    simpa [advance] using goes
  | _ => cases under

theorem Showing.isSome_advance {stage : Showing} (under : stage.fetch? = some (repository, fetch))
    (goes : (fetch.advance task repository world reply).isSome) :
    (stage.advance task world reply).isSome := by
  cases stage with
  | reading children => simpa [advance] using Children.isSome_advance under goes
  | _ => cases under

theorem Update.isSome_advance {stage : Update} (under : stage.fetch? = some (repository, fetch))
    (goes : (fetch.advance task repository world reply).isSome) :
    (stage.advance task world reply).isSome := by
  cases stage with
  | showing stage => simpa [advance] using Showing.isSome_advance under goes
  | _ => cases under

theorem Refresh.isSome_advance {stage : Refresh} (under : stage.fetch? = some (repository, fetch))
    (goes : (fetch.advance task repository world reply).isSome) :
    (stage.advance task world reply).isSome := by
  cases stage with
  | updating _ update => simpa [advance] using Update.isSome_advance under goes
  | _ => cases under

theorem MoreLines.isSome_advance {stage : MoreLines}
    (under : stage.fetch? = some (repository, fetch))
    (goes : (fetch.advance task repository world reply).isSome) :
    (stage.advance task world reply).isSome := by
  cases stage with
  | loading _ stage => simpa [advance] using LoadMore.isSome_advance under goes
  | showing stage => simpa [advance] using Showing.isSome_advance under goes
  | _ => cases under

theorem Handling.isSome_advance {stage : Handling} (under : stage.fetch? = some (repository, fetch))
    (goes : (fetch.advance task repository world reply).isSome) :
    (stage.advance task world reply).isSome := by
  cases stage with
  | refreshing refresh => simpa [advance] using Refresh.isSome_advance under goes
  | _ => cases under

theorem Follow.isSome_advance {stage : Follow} (under : stage.fetch? = some (repository, fetch))
    (goes : (fetch.advance task repository world reply).isSome) :
    (stage.advance task world reply).isSome := by
  cases stage with
  | handling _ stage => simpa [advance] using Handling.isSome_advance under goes
  | refreshing _ stage => simpa [advance] using Refresh.isSome_advance under goes
  | _ => cases under

/-- A step of the fetch under way is a step of the activity. -/
theorem Activity.isSome_advance {activity : Activity}
    (under : activity.fetch? = some (repository, fetch))
    (goes : (fetch.advance task repository world reply).isSome) :
    (activity.advance task world reply).isSome := by
  cases activity with
  | fetch other stage =>
    obtain ⟨rfl, rfl⟩ := Fetch.eq_of_underWay? under
    simpa [advance] using goes
  | loadMore other stage => simpa [advance] using LoadMore.isSome_advance under goes
  | children stage => simpa [advance] using Children.isSome_advance under goes
  | refresh stage => simpa [advance] using Refresh.isSome_advance under goes
  | moreLines stage => simpa [advance] using MoreLines.isSome_advance under goes
  | handle stage => simpa [advance] using Handling.isSome_advance under goes
  | follow stage => simpa [advance] using Follow.isSome_advance under goes
  | _ => cases under

end

/-! ### Runs that remember a turnstile -/

variable {session next final middle : Session} {move : Move} {moves : List Move} {id : RepositoryId}
  {task gate : Nat} {repository : Repository} {stage stage' : Fetch}

/-- One session comes from another by moves that do not forget the turnstile of a repository. -/
inductive Leads (id : RepositoryId) : Session → Session → Prop
  | refl (session : Session) : Leads id session session
  | step {session next final : Session} {move : Move} (moved : session.move move = some next)
      (remembered : session.deedOf move ≠ .forget id) (rest : Leads id next final) :
      Leads id session final

namespace Leads

theorem trans (first : Leads id session middle) (second : Leads id middle final) :
    Leads id session final := by
  induction first with
  | refl => exact second
  | step moved remembered _ ih => exact .step moved remembered (ih second)

theorem exists_moves (leads : Leads id session final) :
    ∃ moves, session.play moves = some final ∧
      session.Throughout (fun session move => session.deedOf move ≠ .forget id) moves := by
  induction leads with
  | refl session => exact ⟨[], rfl, trivial⟩
  | @step session next final move moved remembered _ ih =>
    obtain ⟨moves, played, throughout⟩ := ih
    refine ⟨move :: moves, Option.bind_eq_some_iff.mpr ⟨next, moved, played⟩, remembered, ?_⟩
    intro other moved'
    obtain rfl := Option.some.inj (moved.symm.trans moved')
    exact throughout

theorem queued (leads : Leads id session final) (queued : session.Queued) : final.Queued := by
  induction leads with
  | refl => exact queued
  | step moved _ _ ih => exact ih (queued.of_move moved)

/-- A task whose fetch is under way forgets no turnstile. -/
theorem deedOf_ne_forget (under : session.fetchOf? task = some (repository, stage))
    (reply : Option Reply) : session.deedOf (.advance task reply) ≠ .forget id := by
  obtain ⟨activity, held, under⟩ := Option.bind_eq_some_iff.mp under
  rw [deedOf, held, Option.map_some, Option.getD_some]
  intro forgets
  have removes := activity.removes?_deed session.world
  rw [forgets] at removes
  cases activity <;> first | cases removes | cases under

/-- A step of a fetch can be made in the session. It changes no other fetch. -/
theorem exists_fetch (id : RepositoryId) (under : session.fetchOf? task = some (repository, stage))
    {reply : Option Reply} {world : World}
    (advanced : stage.advance task repository session.world reply = some (world, stage')) :
    ∃ next, Leads id session next ∧ next.world = world ∧
      next.fetchOf? task = stage'.underWay? repository ∧
      ∀ other, other ≠ task → next.fetchOf? other = session.fetchOf? other := by
  obtain ⟨activity, held, inner⟩ := Option.bind_eq_some_iff.mp under
  have goes := Activity.isSome_advance inner (Option.isSome_of_eq_some advanced)
  obtain ⟨⟨world', after⟩, stepped⟩ := Option.isSome_iff_exists.mp goes
  have moved := move_of_activity held stepped
  refine ⟨_, .step moved (deedOf_ne_forget under reply) (.refl _), ?_⟩
  cases Shift.of_move moved with
  | deed nothing _ _ _ _ =>
    have none : session.fetchOf? task = none := nothing
    rw [none] at under
    cases under
  | fetch under' advanced' same mine others =>
    cases under.symm.trans under'
    cases advanced.symm.trans advanced'
    exact ⟨same, mine, others⟩

/-- An edit can be made at any time. It changes no fetch. -/
theorem exists_edit (id : RepositoryId) (session : Session) (change : Edit) :
    ∃ next, Leads id session next ∧ next.world = change.apply session.world ∧
      ∀ task, next.fetchOf? task = session.fetchOf? task := by
  have held : (session.start (.edit change)).activities[session.activities.length]? =
      some (.edit change) := List.getElem?_concat_length
  have moved := move_of_activity held (rfl : Activity.advance _ session.world _ none = some _)
  have remembered : (session.start (.edit change)).deedOf
      (.advance session.activities.length none) ≠ .forget id := by
    rw [deedOf, held]
    intro edits
    cases edits
  have resting : session.deedOf (.start (.edit change)) ≠ .forget id := by
    intro rest
    cases rest
  have started : Leads id session _ :=
    .step (move_start session (.edit change)) resting (.step moved remembered (.refl _))
  refine ⟨_, started, rfl, fun task => ?_⟩
  rw [fetchOf?_set _ held]
  split
  next last => rw [last, fetchOf?_length]; rfl
  next different => rw [fetchOf?_start, if_neg different]

/-- A fetch can begin at any time. -/
theorem exists_begin (id : RepositoryId) (session : Session) (repository : Repository) :
    ∃ next task, Leads id session next ∧ next.world = session.world ∧
      session.fetchOf? task = none ∧ next.fetchOf? task = some (repository, .lookup) ∧
      ∀ other, other ≠ task → next.fetchOf? other = session.fetchOf? other := by
  refine ⟨session.start (.fetch repository), session.activities.length,
    .step (move_start session (.fetch repository)) (fun rest => nomatch rest) (.refl _), rfl,
    fetchOf?_length, ?_, fun other new => ?_⟩
  · rw [fetchOf?_start, if_pos rfl]
    rfl
  · rw [fetchOf?_start, if_neg new]

end Leads

/-! ### Leaving a turnstile -/

/-- A task has left a turnstile, and no other fetch has moved. -/
structure Left (id : RepositoryId) (session : Session) (task gate : Nat)
    (next : Session) : Prop where
  leads : Leads id session next
  gates : next.world.gates = session.world.gates.leave gate
  mine : next.fetchOf? task = none
  others : ∀ other, other ≠ task → next.fetchOf? other = session.fetchOf? other

namespace Left

/-- A step of the fetch of a task after which it is over. -/
theorem of_done (id : RepositoryId) (reply : Option Reply) {world : World}
    {result : Except Fault (List Row)}
    (under : session.fetchOf? task = some (repository, stage))
    (advanced : stage.advance task repository session.world reply = some (world, .done result))
    (gates : world.gates = session.world.gates.leave gate) :
    ∃ next, Left id session task gate next := by
  obtain ⟨next, leads, rfl, mine, others⟩ := Leads.exists_fetch id under advanced
  exact ⟨next, leads, gates, mine, others⟩

/-- A step of the fetch of a task after which it can leave. -/
theorem of_step (reply : Option Reply)
    (under : session.fetchOf? task = some (repository, stage))
    (advanced : stage.advance task repository session.world reply = some (session.world, stage'))
    (goes : ∀ middle, middle.world = session.world →
      middle.fetchOf? task = stage'.underWay? repository →
      ∃ next, Left id middle task gate next) : ∃ next, Left id session task gate next := by
  obtain ⟨middle, leads, world, mine, others⟩ := Leads.exists_fetch id under advanced
  obtain ⟨next, left⟩ := goes middle world mine
  refine ⟨next, leads.trans left.leads, world ▸ left.gates, left.mine, fun other different => ?_⟩
  rw [left.others other different, others other different]

/-- Who is inside a turnstile can leave it, at the latest when its source refuses to answer. -/
theorem exists_of_inside (id : RepositoryId)
    (under : session.fetchOf? task = some (repository, stage))
    (inside : stage.inside? = some gate) : ∃ next, Left id session task gate next := by
  -- A source may refuse whatever it is asked, and a fetch that is told so leaves at once.
  let refusal : Fault := .source "" ""
  have asking {session : Session} {ticket : Ticket}
      (under : session.fetchOf? task = some (repository, .askLineage gate ticket)) :
      ∃ next, Left id session task gate next :=
    of_done id (some (.lineage (.error refusal))) under rfl rfl
  have noting {session : Session}
      (under : session.fetchOf? task = some (repository, .note gate)) :
      ∃ next, Left id session task gate next :=
    of_step none under rfl fun _ _ mine => asking mine
  cases stage with
  | lookup | findGate | enter _ | waiting _ | done _ => cases inside
  | recheck here =>
    obtain rfl := Option.some.inj inside
    cases fresh : session.world.store.fresh? repository.id with
    | some rows =>
      have leaves : (Fetch.recheck here).advance task repository session.world none =
          some (Fetch.finish session.world here (.ok rows)) := by rw [Fetch.advance, fresh]
      exact of_done id none under leaves rfl
    | none =>
      have goes : (Fetch.recheck here).advance task repository session.world none =
          some (session.world, .note here) := by rw [Fetch.advance, fresh]
      exact of_step none under goes fun _ _ mine => noting mine
  | note here =>
    obtain rfl := Option.some.inj inside
    exact noting under
  | askLineage here ticket =>
    obtain rfl := Option.some.inj inside
    exact asking under
  | askPage here ticket lineage =>
    obtain rfl := Option.some.inj inside
    exact of_done id (some (.page (.error refusal))) under rfl rfl
  | drop here ticket =>
    obtain rfl := Option.some.inj inside
    by_cases current : session.world.store.generation repository.id = ticket.generation
    · exact of_done id none under (if_pos current) rfl
    · exact of_done id none under (if_neg current) rfl
  | keep here ticket lineage page =>
    obtain rfl := Option.some.inj inside
    by_cases valid : ticket.isValid session.world.store repository.id = true
    · exact of_done id none under (if_pos valid) rfl
    · exact of_done id none under (if_neg valid) rfl

/-- The first task at a turnstile can leave it. -/
theorem exists_of_first (id : RepositoryId) (queued : session.Queued)
    (first : (session.world.gates.queue gate).head? = some task) :
    ∃ next, Left id session task gate next := by
  have here := (queued.mem_iff gate task).mp (List.mem_of_mem_head? first)
  obtain ⟨⟨repository, stage⟩, under, place⟩ := Option.bind_eq_some_iff.mp here
  cases stage with
  | waiting _ =>
    obtain rfl := Option.some.inj place
    have admitted := (Gates.admits_iff queued.settled).mpr first
    exact of_step none under (if_pos admitted) fun _ _ mine => exists_of_inside id mine rfl
  | _ => exact exists_of_inside id under place

end Left

/-- Every task that waits at a turnstile can become the first, when all who came before have
left. -/
theorem Leads.exists_first (id : RepositoryId) (queued : session.Queued)
    (under : session.fetchOf? task = some (repository, .waiting gate)) :
    ∃ next, Leads id session next ∧ next.fetchOf? task = some (repository, .waiting gate) ∧
      next.world.gates.current = session.world.gates.current ∧
      next.world.gates.admits gate task = true := by
  have member := (queued.mem_iff gate task).mpr (by rw [placeOf?, under]; rfl)
  obtain ⟨ahead, behind, queue⟩ := List.append_of_mem member
  -- The queue before the task gets shorter with everybody who leaves.
  induction ahead generalizing session with
  | nil =>
    have first : (session.world.gates.queue gate).head? = some task := by rw [queue]; rfl
    exact ⟨session, .refl session, under, rfl, (Gates.admits_iff queued.settled).mpr first⟩
  | cons other ahead ih =>
    have first : (session.world.gates.queue gate).head? = some other := by rw [queue]; rfl
    have different : task ≠ other := by
      rintro rfl
      have nodup := queued.nodup gate
      rw [queue, List.cons_append, List.nodup_cons] at nodup
      exact nodup.1 (List.mem_append_right ahead List.mem_cons_self)
    obtain ⟨middle, left⟩ := Left.exists_of_first id queued first
    have still := left.others task different
    have shorter : middle.world.gates.queue gate = ahead ++ task :: behind := by
      rw [left.gates, Gates.queue_leave queued.settled, if_pos rfl, queue]
      rfl
    obtain ⟨next, leads, here, current, admitted⟩ :=
      ih (left.leads.queued queued) (still.trans under)
        (shorter ▸ List.mem_append_right ahead List.mem_cons_self) shorter
    refine ⟨next, left.leads.trans leads, here, ?_, admitted⟩
    rw [current, left.gates]
    rfl

end CommitHistory.Session
