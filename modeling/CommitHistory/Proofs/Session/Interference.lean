/-
# Repositories do not interfere

When all calls about a repository are left out of a run of calls that work on the store, what is
left is a run, and whoever asks about another repository cannot tell the difference: a task asks
the same questions and comes to the same result, and the same rows are cached at the end. Choices
and the scope stay, as they are about no repository. In the shorter run tasks and turnstiles
have smaller numbers, and otherwise a step of a task that stays is the same step.

## Main definitions

* `Activity.Renumbered` — two activities that differ in the numbers of turnstiles.
* `Session.Apart` — two sessions that are alike apart from a repository.
* `answered` — the questions of a task and the answers to them.

## Main results

* `Session.Apart.of_move` — what is left of a move keeps two sessions alike.
* `Session.Apart.of_play` — what is left of a run does.
-/

import CommitHistory.Proofs.Session.Ownership

namespace CommitHistory.Session

variable {id name : RepositoryId} {known : List Call} {owners : List RepositoryId}
  {world world' other : World} {task : Nat} {reply : Option Reply} {repository : Repository}

/-! ### Other numbers for turnstiles -/

/-- The fetch with other numbers for the turnstiles. -/
def Fetch.renumber (rename : Nat → Nat) : Fetch → Fetch
  | .enter gate => .enter (rename gate)
  | .waiting gate => .waiting (rename gate)
  | .recheck gate => .recheck (rename gate)
  | .note gate => .note (rename gate)
  | .askLineage gate ticket => .askLineage (rename gate) ticket
  | .askPage gate ticket lineage => .askPage (rename gate) ticket lineage
  | .drop gate ticket => .drop (rename gate) ticket
  | .keep gate ticket lineage page => .keep (rename gate) ticket lineage page
  | .lookup => .lookup
  | .findGate => .findGate
  | .done result => .done result

/-- The request for more with other numbers for the turnstiles. -/
def LoadMore.renumber (rename : Nat → Nat) : LoadMore → LoadMore
  | .fetching fetch => .fetching (fetch.renumber rename)
  | stage => stage

/-- The second activity stands where the first does, with other numbers for the turnstiles. What a
removal has withheld may differ. -/
inductive Activity.Renumbered (rename : Nat → Nat) : Activity → Activity → Prop
  | fetch (repository : Repository) (stage : Fetch) :
      Renumbered rename (.fetch repository stage) (.fetch repository (stage.renumber rename))
  | loadMore (repository : Repository) (stage : LoadMore) :
      Renumbered rename (.loadMore repository stage) (.loadMore repository (stage.renumber rename))
  | ancestor (repository : Repository) (stage : Ancestor) :
      Renumbered rename (.ancestor repository stage) (.ancestor repository stage)
  | edit (change : Edit) : Renumbered rename (.edit change) (.edit change)
  | edited : Renumbered rename .edited .edited
  | remove (name : RepositoryId) : Renumbered rename (.remove (.start name)) (.remove (.start name))
  | forget (name : RepositoryId) (notices notices' : List Notice) :
      Renumbered rename (.remove (.forgetGate name notices)) (.remove (.forgetGate name notices'))
  | removed : Renumbered rename (.remove .done) (.remove .done)

theorem Fetch.renumber_congr {rename rename' : Nat → Nat} {stage : Fetch}
    (same : ∀ gate, stage.gate? = some gate → rename gate = rename' gate) :
    stage.renumber rename = stage.renumber rename' := by
  cases stage <;> simp only [renumber] <;> rw [same _ rfl]

theorem LoadMore.renumber_ofFetch (rename : Nat → Nat) (fetch : Fetch) :
    (ofFetch fetch).renumber rename = ofFetch (fetch.renumber rename) := by
  cases fetch <;> rfl

theorem Fetch.question?_renumber (rename : Nat → Nat) (stage : Fetch)
    (same : other.pageSize = world.pageSize) :
    (stage.renumber rename).question? other repository = stage.question? world repository := by
  cases stage <;> simp only [renumber, question?, same]

namespace Activity.Renumbered

variable {rename rename' : Nat → Nat} {activity activity' : Activity}

theorem begin (rename : Nat → Nat) {call : Call} (ofStore : call.isOfStore = true) :
    Renumbered rename call.begin call.begin := by
  cases call with
  | fetch repository => exact .fetch repository .lookup
  | loadMore repository => exact .loadMore repository .guard
  | ancestor repository => exact .ancestor repository .note
  | edit change => exact .edit change
  | remove name => exact .remove name
  | _ => cases ofStore

variable (renumbered : Renumbered rename activity activity')

include renumbered

theorem question? (same : other.pageSize = world.pageSize) :
    activity'.question? other = activity.question? world := by
  cases renumbered with
  | fetch repository stage => exact Fetch.question?_renumber rename stage same
  | loadMore repository stage =>
    cases stage with
    | fetching fetch => exact Fetch.question?_renumber rename fetch same
    | _ => rfl
  | _ => rfl

theorem result? : activity'.result? = activity.result? := by
  cases renumbered with
  | fetch repository stage => cases stage <;> rfl
  | loadMore repository stage => cases stage <;> rfl
  | _ => rfl

theorem congr (same : ∀ repository stage gate, activity.fetch? = some (repository, stage) →
    stage.gate? = some gate → rename gate = rename' gate) :
    Renumbered rename' activity activity' := by
  cases renumbered with
  | fetch repository stage =>
    rw [Fetch.renumber_congr fun gate coming => same repository stage gate ?_ coming]
    · exact .fetch repository stage
    · cases stage <;> first | rfl | cases coming
  | loadMore repository stage =>
    cases stage with
    | fetching fetch =>
      rw [LoadMore.renumber, Fetch.renumber_congr fun gate coming =>
        same repository fetch gate ?_ coming]
      · exact .loadMore repository (.fetching fetch)
      · cases fetch <;> first | rfl | cases coming
    | _ => exact .loadMore repository _
  | ancestor _ _ => exact .ancestor _ _
  | edit _ => exact .edit _
  | edited => exact .edited
  | remove _ => exact .remove _
  | forget _ _ _ => exact .forget _ _ _
  | removed => exact .removed

end Activity.Renumbered

/-! ### Steps of fetches -/

/-- Whoever leaves a turnstile of another repository leaves it in both worlds. -/
theorem World.Apart.finish {gate : Nat} (apart : World.Apart id known owners world other)
    (owner : owners[gate]? = some name) (different : name ≠ id)
    (result : Except Fault (List Row)) :
    World.Apart id known owners (Fetch.finish world gate result).1
      (Fetch.finish other (place id owners gate) result).1 :=
  { apart with gates := apart.gates.leave owner different }

/-- A page for another repository is stored in both worlds. -/
theorem World.Apart.store_of_other (apart : World.Apart id known owners world other)
    (different : name ≠ id) (lineage : Lineage) (graph : Graph) (appended : Nat) :
    World.Apart id known owners (Fetch.store world name lineage graph appended)
      (Fetch.store other name lineage graph appended) := by
  have stored := apart.store.put different
    { lineage, graph, wantsMore := false, loadingMore := world.store.isLoadingMore name }
  refine ⟨apart.pageSize, ?_, apart.gates⟩
  rw [Fetch.store, Fetch.store, apart.store.isLoadingMore different]
  exact stored

namespace Fetch

variable {stage stage' : Fetch}

/-- A step of a fetch of the repository cannot be seen in a world without it. -/
theorem Steps.apart_of_own (steps : Steps task repository world stage reply world' stage')
    (apart : World.Apart id known owners world other) (owned : world.gates.Owned owners)
    (home : stage.IsHome owners repository.id) (own : repository.id = id) :
    World.Apart id known (owners ++ stage.setUp world.gates repository.id) world' other := by
  subst own
  by_cases search : stage = .findGate
  · subst search
    cases steps with
    | find => exact { apart with gates := apart.gates.find_of_own owned }
    | leave inside _ _ => cases inside
  rw [setUp_of_ne search, List.append_nil]
  cases steps with
  | find => exact absurd rfl search
  | answerAtOnce _ | goOn | pass _ | recheck _ | note | ask _ | miss | answer _ => exact apart
  | enter _ | queue =>
    exact { apart with gates := apart.gates.enter_of_own owned.length (home _ rfl) task }
  | drop _ =>
    exact { apart with
      store := apart.store.invalidate_of_own
      gates := apart.gates.leave_of_own (home _ rfl) }
  | keep _ =>
    exact { apart with
      store := apart.store.put_of_own _
      gates := apart.gates.leave_of_own (home _ rfl) }
  | leave inside _ _ =>
    exact { apart with gates := apart.gates.leave_of_own (home _ (gate?_of_inside? inside)) }

/-- A search for the turnstile of another repository is the same step in a world without the one. -/
theorem exists_advance_findGate (apart : World.Apart id known owners world other)
    (owned : world.gates.Owned owners) (different : repository.id ≠ id)
    (advanced : findGate.advance task repository world reply = some (world', stage')) :
    ∃ other', findGate.advance (number id known task) repository other reply =
        some (other', stage'.renumber
          (place id (owners ++ world.gates.setUp repository.id))) ∧
      World.Apart id known (owners ++ world.gates.setUp repository.id) world' other' := by
  obtain ⟨gates, same⟩ := apart.gates.find owned different
  cases reply <;> cases advanced
  refine ⟨{ other with gates := (other.gates.find repository.id).1 }, ?_, { apart with gates }⟩
  rw [advance, renumber, same]

/-- An answer to a fetch of another repository does the same in both worlds. -/
theorem exists_advance_some {reply : Reply} (apart : World.Apart id known owners world other)
    (home : stage.IsHome owners repository.id) (different : repository.id ≠ id)
    (advanced : stage.advance task repository world (some reply) = some (world', stage')) :
    ∃ other', (stage.renumber (place id owners)).advance (number id known task) repository other
        (some reply) = some (other', stage'.renumber (place id owners)) ∧
      World.Apart id known owners world' other' := by
  cases stage with
  | askLineage gate ticket =>
    cases reply with
    | lineage answer =>
      rcases answer with fault | _ | lineage <;> cases advanced
      · exact ⟨_, rfl, apart.finish (home gate rfl) different (.error fault)⟩
      · exact ⟨other, rfl, apart⟩
      · exact ⟨other, rfl, apart⟩
    | _ => cases advanced
  | askPage gate ticket lineage =>
    cases reply with
    | page answer =>
      cases answer <;> cases advanced
      next fault => exact ⟨_, rfl, apart.finish (home gate rfl) different (.error fault)⟩
      next => exact ⟨other, rfl, apart⟩
    | _ => cases advanced
  | _ => cases advanced

/-- A step that a fetch of another repository takes by itself, other than a search, does the same in
both worlds. -/
theorem exists_advance_none (apart : World.Apart id known owners world other)
    (settled : world.gates.Settled) (length : world.gates.turnstiles.length = owners.length)
    (home : stage.IsHome owners repository.id) (different : repository.id ≠ id)
    (alone : ∀ gate, stage.gate? = some gate → ∀ guest ∈ world.gates.queue gate,
      number id known guest = number id known task → guest = task)
    (busy : stage ≠ .findGate)
    (advanced : stage.advance task repository world none = some (world', stage')) :
    ∃ other', (stage.renumber (place id owners)).advance (number id known task) repository other
        none = some (other', stage'.renumber (place id owners)) ∧
      World.Apart id known owners world' other' := by
  have fresh := apart.store.fresh? different
  cases stage with
  | findGate => exact absurd rfl busy
  | askLineage _ _ | askPage _ _ _ | done _ => cases advanced
  | lookup =>
    rw [advance, ← fresh] at advanced
    split at advanced
    next absent =>
      cases advanced
      exact ⟨other, by simp [renumber, advance, absent], apart⟩
    next present =>
      split at advanced <;> cases advanced
      next held => exact ⟨other, by simp [renumber, advance, present, held], apart⟩
      next held => exact ⟨other, by simp [renumber, advance, present, held], apart⟩
  | enter gate =>
    cases advanced
    have entered := apart.gates.enter length (home gate rfl) different task
    have admits := apart.gates.admits_enter settled length (home gate rfl) different
      (alone gate rfl)
    refine ⟨{ other with gates := other.gates.enter (place id owners gate) (number id known task) },
      ?_, apart.pageSize, apart.store, entered⟩
    rw [renumber, advance, admits]
    split <;> rfl
  | waiting gate =>
    have admits := apart.gates.admits (home gate rfl) different (alone gate rfl)
    rw [advance] at advanced
    split at advanced <;> cases advanced
    next admitted => exact ⟨other, by simp [renumber, advance, admits, admitted], apart⟩
  | recheck gate =>
    rw [advance, ← fresh] at advanced
    split at advanced <;> cases advanced
    next rows held =>
      refine ⟨_, ?_, apart.finish (home gate rfl) different (.ok rows)⟩
      simp only [renumber, advance, held]
      rfl
    next held => exact ⟨other, by simp [renumber, advance, held], apart⟩
  | note gate =>
    cases advanced
    exact ⟨other, by rw [renumber, advance, renumber, apart.store.take different], apart⟩
  | drop gate ticket =>
    rw [advance, ← apart.store.generation different] at advanced
    split at advanced <;> cases advanced
    next current =>
      have dropped : World.Apart id known owners
          { world with store := world.store.invalidate repository.id }
          { other with store := other.store.invalidate repository.id } :=
        { apart with store := apart.store.invalidate different }
      refine ⟨_, ?_, dropped.finish (home gate rfl) different (.ok [])⟩
      rw [renumber, advance, if_pos current]
      rfl
    next old =>
      refine ⟨_, ?_, apart.finish (home gate rfl) different (.ok [])⟩
      rw [renumber, advance, if_neg old]
      rfl
  | keep gate ticket lineage page =>
    simp only [advance, ← apart.store.isValid different] at advanced
    split at advanced <;> cases advanced
    next valid =>
      have stored := apart.store_of_other different lineage (ticket.grown lineage page) page.length
      refine ⟨_, ?_, stored.finish (home gate rfl) different
        (.ok (ticket.grown lineage page).rows)⟩
      simp only [renumber, advance, if_pos valid]
      rfl
    next old =>
      refine ⟨_, ?_, apart.finish (home gate rfl) different
        (.ok (ticket.grown lineage page).rows)⟩
      simp only [renumber, advance, if_neg old]
      rfl

theorem underWay?_of_advance
    (advanced : stage.advance task repository world reply = some (world', stage')) :
    stage.underWay? repository = some (repository, stage) := by
  cases stage with
  | done result => cases advanced
  | _ => rfl

end Fetch

/-! ### Steps of tasks -/

section Tasks

variable {session next : Session} {call : Call} {activity activity' after : Activity}

theorem fetchOf?_of_held (held : session.activities[task]? = some activity) :
    session.fetchOf? task = activity.fetch? := by
  rw [fetchOf?, held, Option.bind_some]

/-- Whoever stands where the fetch of a task that is kept comes to is known by its new number. -/
theorem InOrder.alone (inOrder : session.InOrder known owners) {stage : Fetch} {gate guest : Nat}
    (under : session.fetchOf? task = some (repository, stage)) (different : repository.id ≠ id)
    (coming : stage.gate? = some gate) (here : guest ∈ session.world.gates.queue gate)
    (same : number id known guest = number id known task) : guest = task := by
  obtain ⟨call, began, owner⟩ := inOrder.owner?_of_fetchOf? under
  obtain ⟨other, name, began', owner', mine⟩ := inOrder.exists_call here
  obtain rfl := Option.some.inj
    (mine.symm.trans (inOrder.owned.home task repository stage under gate coming))
  -- Both began with calls about one repository, so both are kept and can be told apart.
  have keeps {call : Call} (owner : call.owner? = some repository.id) : call.isKept id = true := by
    rw [Call.isKept_iff, owner]
    exact fun same => different (Option.some.inj same)
  exact number_injective began' began (keeps owner') (keeps owner) same

/-- What a task about the repository does cannot be seen in a world without it. -/
theorem World.Apart.of_own (apart : World.Apart id known owners session.world other)
    (inOrder : session.InOrder known owners) (began : known[task]? = some call)
    (own : call.owner? = some id) (moved : session.move (.advance task reply) = some next) :
    World.Apart id known (owners ++ session.setUp (.advance task reply)) next.world other := by
  cases Shift.of_move moved with
  | @fetch _ _ repository stage _ _ _ under advanced world _ _ =>
    subst world
    obtain ⟨other, began', owner⟩ := inOrder.owner?_of_fetchOf? under
    obtain rfl := Option.some.inj (began.symm.trans began')
    rw [setUp_of_fetch under]
    exact (Fetch.Steps.of_advance advanced).apart_of_own apart inOrder.owned.gates
      (inOrder.owned.home task repository stage under)
      (Option.some.inj (owner.symm.trans own))
  | deed nothing _ store gates pageSize =>
    rw [setUp_of_nothing nothing, List.append_nil]
    refine apart.deed_of_own (fun busy => ?_) store gates pageSize
    rw [deedOf] at busy ⊢
    cases held : session.activities[task]? with
    | none =>
      rw [held] at busy
      exact absurd rfl busy
    | some activity =>
      rw [held, Option.map_some, Option.getD_some] at busy
      have works := inOrder.working.works task call activity began held
      exact (works.owner?_deed busy).trans own

/-- A step of the fetch of a task that is kept is the same step in a world without the
repository. -/
theorem World.Apart.exists_fetch (apart : World.Apart id known owners session.world other)
    (inOrder : session.InOrder known owners) {stage stage' : Fetch}
    (under : session.fetchOf? task = some (repository, stage)) (different : repository.id ≠ id)
    (advanced : stage.advance task repository session.world reply = some (world', stage')) :
    ∃ other', (stage.renumber (place id owners)).advance (number id known task) repository other
        reply = some (other', stage'.renumber
          (place id (owners ++ session.setUp (.advance task reply)))) ∧
      World.Apart id known (owners ++ session.setUp (.advance task reply)) world' other' := by
  rw [setUp_of_fetch under]
  by_cases search : stage = .findGate
  · -- Only a search sets up a turnstile, which may change the numbers of later ones.
    subst search
    exact Fetch.exists_advance_findGate apart inOrder.owned.gates different advanced
  · rw [Fetch.setUp_of_ne search, List.append_nil]
    have home := inOrder.owned.home task repository stage under
    cases reply with
    | some reply => exact Fetch.exists_advance_some apart home different advanced
    | none =>
      exact Fetch.exists_advance_none apart inOrder.queued.settled inOrder.owned.gates.length home
        different (fun gate coming guest here => inOrder.alone under different coming here) search
        advanced

/-- A step of a request for more that is kept is the same step in a world without the
repository. -/
theorem World.Apart.exists_loadMore (apart : World.Apart id known owners session.world other)
    (inOrder : session.InOrder known owners) {stage stage' : LoadMore}
    (held : session.activities[task]? = some (.loadMore repository stage))
    (different : repository.id ≠ id)
    (advanced : stage.advance task repository session.world reply = some (world', stage')) :
    ∃ other', (stage.renumber (place id owners)).advance (number id known task) repository other
        reply = some (other', stage'.renumber
          (place id (owners ++ session.setUp (.advance task reply)))) ∧
      World.Apart id known (owners ++ session.setUp (.advance task reply)) world' other' := by
  have fetch : session.moved? (.advance task reply) = _ := fetchOf?_of_held held
  cases stage with
  | guard =>
    rw [setUp_of_nothing fetch, List.append_nil]
    cases reply with
    | some reply => cases advanced
    | none =>
      have same := apart.store.get?_cached different
      rw [LoadMore.advance] at advanced
      split at advanced
      next absent =>
        cases advanced
        rw [← same] at absent
        exact ⟨other, by simp only [LoadMore.renumber, LoadMore.advance, absent], apart⟩
      next cached present =>
        rw [← same] at present
        split at advanced <;> cases advanced
        next busy =>
          exact ⟨other, by simp only [LoadMore.renumber, LoadMore.advance, present, if_pos busy],
            apart⟩
        next free =>
          have marked := apart.store.alter different fun cached =>
            { cached with wantsMore := true, loadingMore := true }
          refine ⟨{ other with store := other.store.alter repository.id _ }, ?_,
            apart.pageSize, marked, apart.gates⟩
          simp only [LoadMore.renumber, LoadMore.advance, present, if_neg free]
          rfl
  | fetching stage =>
    obtain ⟨⟨world, after⟩, stepped, made⟩ := Option.map_eq_some_iff.mp advanced
    cases made
    have under := fetch.trans (Fetch.underWay?_of_advance stepped)
    obtain ⟨other', stepped', alike⟩ := apart.exists_fetch inOrder under different stepped
    refine ⟨other', ?_, alike⟩
    rw [LoadMore.renumber, LoadMore.advance, stepped', LoadMore.renumber_ofFetch]
    rfl
  | unmark result =>
    rw [setUp_of_nothing fetch, List.append_nil]
    cases reply <;> cases advanced
    have unmarked := apart.store.alter different fun cached =>
      { cached with loadingMore := false }
    exact ⟨{ other with store := other.store.alter repository.id _ }, rfl,
      apart.pageSize, unmarked, apart.gates⟩
  | done result => cases reply <;> cases advanced

/-- A search for a common ancestor that is kept does the same in a world without the
repository. -/
theorem World.Apart.ancestor_advance (apart : World.Apart id known owners world other)
    (different : repository.id ≠ id) (stage : Ancestor) :
    stage.advance repository other reply =
      (stage.advance repository world reply).map fun next => (other, next.2) := by
  unfold Ancestor.advance
  rw [apart.store.get?_cached different]
  split <;> try rfl
  split
  next => rfl
  next => split <;> rfl

/-- A step of a task that is kept is the same step in a world without the repository. -/
theorem World.Apart.exists_advance (apart : World.Apart id known owners session.world other)
    (inOrder : session.InOrder known owners) (began : known[task]? = some call)
    (kept : call.isKept id = true) (held : session.activities[task]? = some activity)
    (renumbered : activity.Renumbered (place id owners) activity')
    (advanced : activity.advance task session.world reply = some (world', after)) :
    ∃ other' after', activity'.advance (number id known task) other reply =
        some (other', after') ∧
      after.Renumbered (place id (owners ++ session.setUp (.advance task reply))) after' ∧
      World.Apart id known (owners ++ session.setUp (.advance task reply)) world' other' := by
  have fetch : session.moved? (.advance task reply) = _ := fetchOf?_of_held held
  have works := inOrder.working.works task call activity began held
  rw [Call.isKept_iff] at kept
  -- The two activities are of one kind, and the call says which repository they are about.
  cases renumbered with
  | fetch repository stage =>
    cases works
    have different : repository.id ≠ id := fun same => kept (congrArg some same)
    obtain ⟨stage', stepped, rfl⟩ := exists_of_map_eq_some advanced
    have under := fetch.trans (Fetch.underWay?_of_advance stepped)
    obtain ⟨other', stepped', alike⟩ := apart.exists_fetch inOrder under different stepped
    refine ⟨other', _, ?_, .fetch repository stage', alike⟩
    rw [Activity.advance, stepped']
    rfl
  | loadMore repository stage =>
    cases works
    have different : repository.id ≠ id := fun same => kept (congrArg some same)
    obtain ⟨stage', stepped, rfl⟩ := exists_of_map_eq_some advanced
    obtain ⟨other', stepped', alike⟩ := apart.exists_loadMore inOrder held different stepped
    refine ⟨other', _, ?_, .loadMore repository stage', alike⟩
    rw [Activity.advance, stepped']
    rfl
  | ancestor repository stage =>
    cases works
    have different : repository.id ≠ id := fun same => kept (congrArg some same)
    obtain ⟨stage', stepped, rfl⟩ := exists_of_map_eq_some advanced
    obtain rfl := Ancestor.world_of_advance stepped
    rw [setUp_of_nothing fetch, List.append_nil]
    refine ⟨other, _, ?_, .ancestor repository stage', apart⟩
    rw [Activity.advance, apart.ancestor_advance different, stepped]
    rfl
  | edit change =>
    cases works
    rw [setUp_of_nothing fetch, List.append_nil]
    cases reply <;> cases advanced
    exact ⟨change.apply other, .edited, rfl, .edited, apart.deed (.edit change) kept
      (change.store_apply _) (change.gates_apply _) (change.pageSize_apply _)
      (change.store_apply _) (change.gates_apply _) (change.pageSize_apply _)⟩
  | remove name =>
    cases works
    rw [setUp_of_nothing fetch, List.append_nil]
    cases reply <;> cases advanced
    exact ⟨{ other with store := other.store.remove name }, _, rfl, .forget name _ _,
      apart.deed (.remove name) kept rfl rfl rfl rfl rfl rfl⟩
  | forget name notices notices' =>
    cases works
    rw [setUp_of_nothing fetch, List.append_nil]
    cases reply <;> cases advanced
    exact ⟨_, _, rfl, .removed, apart.deed (.forget name) kept rfl rfl rfl rfl rfl rfl⟩
  | edited => cases advanced
  | removed => cases reply <;> cases advanced

end Tasks

/-! ### Sessions -/

/-- The second session is alike apart from a repository, after some calls and with the turnstiles
of some repositories: it has the tasks that are kept, and they stand where they stand in the
first. -/
structure Apart (id : RepositoryId) (known : List Call) (owners : List RepositoryId)
    (session other : Session) : Prop where
  world : World.Apart id known owners session.world other.world
  size : other.activities.length = known.countP (Call.isKept id)
  tasks : ∀ (task : Nat) (call : Call) (activity : Activity), known[task]? = some call →
    call.isKept id = true → session.activities[task]? = some activity →
      ∃ activity', other.activities[number id known task]? = some activity' ∧
        activity.Renumbered (place id owners) activity'

/-- The questions that are answered by a move, with the task that asked and the answer. -/
def answered (session : Session) : Move → List (Nat × Question × Reply)
  | .advance task (some reply) =>
    (session.question? task).toList.map fun question => (task, question, reply)
  | _ => []

/-- What is left of an answer when the calls about a repository are left out. -/
def renamed (id : RepositoryId) (known : List Call) (answer : Nat × Question × Reply) :
    Option (Nat × Question × Reply) :=
  if isKept id known answer.1 then some (number id known answer.1, answer.2) else none

variable {session next final other' : Session} {call : Call} {move : Move} {moves : List Move}
  {activity activity' : Activity}

/-- Turnstiles that are set up later do not change where an activity stands. -/
theorem InOrder.renumbered_append (inOrder : session.InOrder known owners)
    (held : session.activities[task]? = some activity)
    (renumbered : activity.Renumbered (place id owners) activity') (more : List RepositoryId) :
    activity.Renumbered (place id (owners ++ more)) activity' := by
  refine renumbered.congr fun repository stage gate under coming => ?_
  have home := inOrder.owned.home task repository stage ((fetchOf?_of_held held).trans under)
  obtain ⟨inside, -⟩ := List.getElem?_eq_some_iff.mp (home gate coming)
  exact (place_append more (Nat.le_of_lt inside)).symm

namespace Apart

variable {other : Session}

theorem new (id : RepositoryId) (pageSize : Nat) (scope : Scope) :
    (new pageSize scope).Apart id [] [] (new pageSize scope) where
  world := .start id pageSize scope
  size := rfl
  tasks _ _ _ none := nomatch none

variable (apart : session.Apart id known owners other)

include apart

/-- Whoever is at a turnstile has begun, so one more call changes nothing there. -/
theorem world_start (inOrder : session.InOrder known owners) (call : Call) :
    World.Apart id (known ++ [call]) owners session.world other.world := by
  refine ⟨apart.world.pageSize, apart.world.store,
    apart.world.gates.of_known [call] fun gate task here => ?_⟩
  obtain ⟨_, _, began, -⟩ := inOrder.exists_call here
  exact Nat.le_of_lt (List.getElem?_eq_some_iff.mp began).1

theorem start_of_own (inOrder : session.InOrder known owners) (own : call.isKept id = false) :
    (session.start call).Apart id (known ++ [call]) owners other := by
  refine ⟨apart.world_start inOrder call, ?_, fun task other activity began kept held => ?_⟩
  · simp [apart.size, own]
  · rw [List.getElem?_append] at began
    rw [start, List.getElem?_append, inOrder.working.length] at held
    split at began
    next inside =>
      rw [if_pos inside] at held
      rw [number_append _ (Nat.le_of_lt inside)]
      exact apart.tasks task other activity began kept held
    next =>
      obtain rfl := List.mem_singleton.mp (List.mem_of_getElem? began)
      cases own.symm.trans kept

theorem start (inOrder : session.InOrder known owners) (kept : call.isKept id = true)
    (ofStore : call.isOfStore = true) :
    (session.start call).Apart id (known ++ [call]) owners (other.start call) := by
  refine ⟨apart.world_start inOrder call, ?_, fun task other' activity began kept' held => ?_⟩
  · simp [Session.start, apart.size, kept]
  · rw [List.getElem?_append] at began
    rw [Session.start, List.getElem?_append, inOrder.working.length] at held
    split at began
    next inside =>
      rw [if_pos inside] at held
      obtain ⟨activity', held', renumbered⟩ := apart.tasks task other' activity began kept' held
      rw [number_append _ (Nat.le_of_lt inside)]
      exact ⟨activity', getElem?_append_of_some held' _, renumbered⟩
    next beyond =>
      -- The call that has just begun comes last in both sessions.
      rw [if_neg beyond] at held
      obtain ⟨inside, -⟩ := List.getElem?_eq_some_iff.mp began
      have last : task = known.length := by
        rw [List.length_singleton] at inside
        omega
      subst last
      obtain rfl := List.mem_singleton.mp (List.mem_of_getElem? held)
      refine ⟨call.begin, ?_, .begin _ ofStore⟩
      rw [number_append _ Nat.le.refl, number, rank_length, ← apart.size, Session.start]
      exact List.getElem?_concat_length

theorem advance_of_own (inOrder : session.InOrder known owners) (began : known[task]? = some call)
    (own : call.isKept id = false) (moved : session.move (.advance task reply) = some next) :
    next.Apart id known (owners ++ session.setUp (.advance task reply)) other := by
  have owner : call.owner? = some id := by
    rw [← Bool.not_eq_true, Call.isKept_iff, not_not] at own
    exact own
  refine ⟨apart.world.of_own inOrder began owner moved, apart.size,
    fun task' other activity began' kept held => ?_⟩
  -- The task that moves is left out, so it is not one of those that are kept.
  have different : task' ≠ session.mover (.advance task reply) := by
    rintro rfl
    obtain rfl := Option.some.inj (began.symm.trans began')
    cases own.symm.trans kept
  rw [activities_of_other moved different] at held
  obtain ⟨activity', held', renumbered⟩ := apart.tasks task' other activity began' kept held
  exact ⟨activity', held', inOrder.renumbered_append held renumbered _⟩

theorem exists_advance (inOrder : session.InOrder known owners) (began : known[task]? = some call)
    (kept : call.isKept id = true) (moved : session.move (.advance task reply) = some next) :
    ∃ other', other.move (.advance (number id known task) reply) = some other' ∧
      next.Apart id known (owners ++ session.setUp (.advance task reply)) other' := by
  cases Turn.of_move moved with
  | @advance _ _ activity after world was stepped =>
    obtain ⟨activity', was', renumbered⟩ := apart.tasks task call activity began kept was
    obtain ⟨world', after', stepped', renumbered', alike⟩ :=
      apart.world.exists_advance inOrder began kept was renumbered stepped
    refine ⟨_, move_of_activity was' stepped', alike, ?_,
      fun task' other activity began' kept' held => ?_⟩
    · rw [List.length_set, apart.size]
    · rw [List.getElem?_set] at held
      split at held
      next same =>
        subst same
        obtain ⟨inside, -⟩ := List.getElem?_eq_some_iff.mp was'
        split at held
        next =>
          obtain rfl := Option.some.inj held
          exact ⟨after', List.getElem?_set_self inside, renumbered'⟩
        next => cases held
      next different =>
        -- Another task that is kept has another number, so it stands where it stood.
        obtain ⟨activity', held', renumbered⟩ := apart.tasks task' other activity began' kept' held
        have distinct : number id known task ≠ number id known task' := fun same =>
          different (number_injective began began' kept kept' same)
        rw [List.getElem?_set_ne distinct]
        exact ⟨activity', held', inOrder.renumbered_append held renumbered _⟩

/-- What is left of a move keeps the sessions alike. -/
theorem of_move (inOrder : session.InOrder known owners) (moved : session.move move = some next)
    (ofStore : ∀ call, move = .start call → call.isOfStore = true) :
    ∃ other', other.play (move.without id known) = some other' ∧
      next.Apart id (known ++ move.call?.toList) (owners ++ session.setUp move) other' := by
  cases move with
  | start call =>
    obtain rfl := Option.some.inj moved
    have none : session.setUp (.start call) = [] := rfl
    rw [none, List.append_nil, Move.call?, Option.toList_some, Move.without]
    split
    next kept => exact ⟨other.start call, rfl, apart.start inOrder kept (ofStore call rfl)⟩
    next own => exact ⟨other, rfl, apart.start_of_own inOrder ((Bool.not_eq_true _).mp own)⟩
  | advance task reply =>
    obtain ⟨activity, held, -⟩ := Option.bind_eq_some_iff.mp moved
    obtain ⟨call, began, -⟩ := inOrder.exists_call_of_activity held
    rw [Move.call?, Option.toList_none, List.append_nil, Move.without, isKept_of_held began]
    split
    next kept =>
      obtain ⟨other', moved', alike⟩ := apart.exists_advance inOrder began kept moved
      exact ⟨other', (play_singleton other _).trans moved', alike⟩
    next own =>
      exact ⟨other, rfl,
        apart.advance_of_own inOrder began ((Bool.not_eq_true _).mp own) moved⟩

theorem question? (began : known[task]? = some call) (kept : call.isKept id = true)
    (held : session.activities[task]? = some activity) :
    other.question? (number id known task) = session.question? task := by
  obtain ⟨activity', held', renumbered⟩ := apart.tasks task call activity began kept held
  rw [Session.question?, Session.question?, held, held', Option.bind_some, Option.bind_some]
  exact renumbered.question? apart.world.pageSize

theorem result? (began : known[task]? = some call) (kept : call.isKept id = true)
    (held : session.activities[task]? = some activity) :
    other.result? (number id known task) = session.result? task := by
  obtain ⟨activity', held', renumbered⟩ := apart.tasks task call activity began kept held
  rw [Session.result?, Session.result?, held, held', Option.bind_some, Option.bind_some]
  exact renumbered.result?

/-- A task that is kept gets the same answer to the same question. -/
theorem answered_without (inOrder : session.InOrder known owners)
    (moved : session.move move = some next) (more : List Call) :
    other.trace answered (move.without id known) =
      (session.answered move).filterMap (renamed id (known ++ more)) := by
  have single (move : Move) : other.trace answered [move] = other.answered move :=
    trace_concat (show other.play [] = some other from rfl) move
  cases move with
  | start call =>
    rw [Move.without]
    split
    · exact single (.start call)
    · rfl
  | advance task reply =>
    obtain ⟨activity, held, -⟩ := Option.bind_eq_some_iff.mp moved
    obtain ⟨call, began, -⟩ := inOrder.exists_call_of_activity held
    have later : isKept id (known ++ more) task = call.isKept id :=
      isKept_of_held (getElem?_append_of_some began more)
    have inside : task ≤ known.length := Nat.le_of_lt (List.getElem?_eq_some_iff.mp began).1
    rw [Move.without, isKept_of_held began]
    cases kept : call.isKept id with
    | false =>
      cases reply <;> simp [trace, answered, renamed, later, kept]
    | true =>
      rw [if_pos rfl, single]
      cases reply with
      | none => rfl
      | some reply =>
        rw [answered, answered, apart.question? began kept held]
        cases session.question? task <;> simp [renamed, later, kept, number_append more inside]

omit apart in
/-- What is left of a run keeps the sessions alike, and the tasks that are kept get the same answers
to the same questions. -/
theorem of_play (apart : session.Apart id known owners other)
    (inOrder : session.InOrder known owners) (played : session.play moves = some final)
    (ofStore : ∀ call ∈ calls moves, call.isOfStore = true) :
    ∃ owners' other', other.play (without id known moves) = some other' ∧
      final.Apart id (known ++ calls moves) owners' other' ∧
      final.InOrder (known ++ calls moves) owners' ∧
      other.trace answered (without id known moves) =
        (session.trace answered moves).filterMap (renamed id (known ++ calls moves)) := by
  -- More calls become known from move to move, and their numbers stay what they are.
  induction moves generalizing session other known owners with
  | nil =>
    obtain rfl := Option.some.inj played
    refine ⟨owners, other, rfl, ?_, ?_, rfl⟩ <;> simpa [calls]
  | cons move rest ih =>
    obtain ⟨next, moved, played⟩ := Option.bind_eq_some_iff.mp played
    rw [calls_cons, List.forall_mem_append] at ofStore
    have begins (call : Call) (same : move = .start call) : call.isOfStore = true :=
      ofStore.1 call (by simp [same, Move.call?])
    obtain ⟨middle, left, alike⟩ := apart.of_move inOrder moved begins
    obtain ⟨owners', other', left', alike', inOrder', answers⟩ :=
      ih alike (inOrder.of_move moved begins) played ofStore.2
    rw [List.append_assoc, ← calls_cons] at alike' inOrder' answers
    refine ⟨owners', other', (play_append_of_play left _).trans left', alike', inOrder', ?_⟩
    have here := apart.answered_without inOrder moved (calls (move :: rest))
    rw [without, trace_append left, answers, here, trace, moved, List.filterMap_append]

end Apart

variable {pageSize : Nat} {scope : Scope}

/-- Repositories do not interfere. If all calls about one are left out of a run of calls that work
on the store, a run is left in which all other calls are made: they ask the same questions and are
answered in the same order, they wait for the same answers and come to the same results, and what
is known of other repositories is the same at the end. Nothing is assumed about sources, so a
source that answers by what it was asked before may say the same if it was asked about one of the
two only. -/
theorem exists_play_without (id : RepositoryId)
    (played : (new pageSize scope).play moves = some session)
    (ofStore : ∀ call ∈ calls moves, call.isOfStore = true) :
    ∃ other, (new pageSize scope).play (without id [] moves) = some other ∧
      (∀ (task : Nat) (call : Call), (calls moves)[task]? = some call → call.owner? ≠ some id →
        (calls (without id [] moves))[number id (calls moves) task]? = some call ∧
        other.question? (number id (calls moves) task) = session.question? task ∧
        other.result? (number id (calls moves) task) = session.result? task) ∧
      (new pageSize scope).trace answered (without id [] moves) =
        ((new pageSize scope).trace answered moves).filterMap (renamed id (calls moves)) ∧
      other.world.store.scope = session.world.store.scope ∧
      ∀ name, name ≠ id →
        other.world.store.repositories.get? name = session.world.store.repositories.get? name ∧
        other.world.store.cached.get? name = session.world.store.cached.get? name ∧
        other.world.store.generation name = session.world.store.generation name := by
  obtain ⟨owners, other, left, apart, inOrder, answers⟩ :=
    Apart.of_play (.new id pageSize scope) (.new pageSize scope) played ofStore
  rw [List.nil_append] at apart inOrder answers
  refine ⟨other, left, fun task call began different => ?_, answers, apart.world.store.scope,
    fun name different => ⟨?_, apart.world.store.get?_cached different,
      apart.world.store.generation different⟩⟩
  · have kept : call.isKept id = true := Call.isKept_iff.mpr different
    obtain ⟨inside, -⟩ := List.getElem?_eq_some_iff.mp began
    have held := List.getElem?_eq_getElem (inOrder.working.length ▸ inside)
    exact ⟨getElem?_calls_without began kept, apart.question? began kept held,
      apart.result? began kept held⟩
  · rw [apart.world.store.repositories, Table.get?_erase_of_ne _ different]

/-- Two fetches take turns. The source of the first has no lineage, and its repository is removed
before the page of the other one arrives. -/
def crossingRun : List Move :=
  let second : Repository := { sampleRepository with id := ⟨"s"⟩, source := some 1 }
  [.start (.fetch sampleRepository), .start (.fetch second)] ++
    (List.replicate 5 [.advance 0 none, .advance 1 none]).flatten ++
    [.advance 0 (some (.lineage (.ok none))), .advance 1 (some (.lineage (.ok sampleLineage))),
      .advance 0 none, .start (.remove sampleRepository.id), .advance 2 none] ++
    storing 1 (samplePage "1") ++ [.advance 2 none]

theorem exists_play_without_crossingRun :
    (new 1 .lineage).play crossingRun = some (sampleAfter crossingRun) ∧
    (∀ call ∈ calls crossingRun, call.isOfStore = true) ∧
    ∃ other, (new 1 .lineage).play (without sampleRepository.id [] crossingRun) = some other ∧
      other.result? 0 = (sampleAfter crossingRun).result? 1 ∧ (other.result? 0).isSome = true ∧
      other.world.store.count ⟨"s"⟩ = 1 := by
  have played : (new 1 .lineage).play crossingRun = some (sampleAfter crossingRun) := rfl
  have all : (calls crossingRun).all Call.isOfStore = true := by decide
  have ofStore := List.all_eq_true.mp all
  obtain ⟨other, left, tasks, -, -, rows⟩ :=
    exists_play_without sampleRepository.id played ofStore
  obtain ⟨-, -, result⟩ := tasks 1 (.fetch _) rfl (by decide)
  have number : number sampleRepository.id (calls crossingRun) 1 = 0 := by decide
  rw [number] at result
  have ended : ((sampleAfter crossingRun).result? 1).isSome = true := by decide
  have count : (sampleAfter crossingRun).world.store.count ⟨"s"⟩ = 1 := by decide
  obtain ⟨-, cached, -⟩ := rows ⟨"s"⟩ (by decide)
  refine ⟨played, ofStore, other, left, result, result ▸ ended, ?_⟩
  rw [← count, Store.count, cached, Store.count]

end CommitHistory.Session
