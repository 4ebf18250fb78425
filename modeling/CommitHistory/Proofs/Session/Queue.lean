/-
# Who is at a turnstile

The tasks at a turnstile stand in a queue: one that comes joins at the end, and when the
first leaves the next one is first. In every run the queue of a turnstile holds exactly
the tasks whose fetches are at it, and a fetch that is inside is the first. So no two
fetches are inside the same turnstile, whether it is still in use or forgotten.

## Main definitions

* `Turnstile.tasks`, `Gates.queue` — the queue at a turnstile.
* `Fetch.Passage` — what a step of a fetch does to the turnstiles.
* `Session.Queued` — the queues hold the fetches that are at the turnstiles.

## Main results

* `Session.Queued.of_play` — this is so in every run.
* `Session.Queued.eq_of_inside` — no two fetches are inside the same turnstile.
-/

import CommitHistory.Proofs.Session.History
import Mathlib.Data.List.Nodup

namespace CommitHistory.Session

namespace Turnstile

variable {turnstile : Turnstile}

/-- The tasks at a turnstile in the order in which they came. The first is inside. -/
def tasks (turnstile : Turnstile) : List Nat := turnstile.holder.toList ++ turnstile.waiting

/-- Nobody waits without anybody inside. -/
def Settled (turnstile : Turnstile) : Prop := turnstile.holder = none → turnstile.waiting = []

theorem settled_free : free.Settled := fun _ => rfl

theorem tasks_enter (settled : turnstile.Settled) (task : Nat) :
    (turnstile.enter task).tasks = turnstile.tasks ++ [task] := by
  unfold enter
  cases empty : turnstile.holder with
  | none => simp [tasks, empty, settled empty]
  | some _ => simp [tasks, empty]

theorem Settled.enter (task : Nat) : (turnstile.enter task).Settled := by
  unfold Turnstile.enter
  cases empty : turnstile.holder with
  | none => exact fun none => nomatch none
  | some _ =>
    intro none
    cases none

theorem tasks_leave (settled : turnstile.Settled) :
    turnstile.leave.tasks = turnstile.tasks.tail := by
  unfold leave
  cases empty : turnstile.holder with
  | none => simp [tasks, free, empty, settled empty]
  | some _ => cases waits : turnstile.waiting <;> simp [tasks, free, empty, waits]

theorem Settled.leave : turnstile.leave.Settled := by
  unfold Turnstile.leave
  split
  next => exact settled_free
  next => exact fun none => nomatch none

theorem admits_iff (settled : turnstile.Settled) {task : Nat} :
    turnstile.admits task = true ↔ turnstile.tasks.head? = some task := by
  unfold admits tasks
  cases empty : turnstile.holder with
  | none => simp [settled empty]
  | some _ => simp

end Turnstile

namespace Gates

variable (gates : Gates)

theorem turnstile_enter {gate : Nat} (known : gate < gates.turnstiles.length) (task other : Nat) :
    (gates.enter gate task).turnstile other =
      if other = gate then (gates.turnstile gate).enter task else gates.turnstile other := by
  unfold turnstile
  rw [List.getD_eq_getElem?_getD, enter, List.getElem?_set]
  by_cases same : other = gate
  · simp [same, known, turnstile]
  · rw [if_neg (Ne.symm same), if_neg same, List.getD_eq_getElem?_getD]

theorem turnstile_leave (gate other : Nat) :
    (gates.leave gate).turnstile other =
      if other = gate then (gates.turnstile gate).leave else gates.turnstile other := by
  unfold turnstile
  rw [List.getD_eq_getElem?_getD, leave, List.getElem?_set]
  by_cases same : other = gate
  · by_cases known : gate < gates.turnstiles.length
    · simp [same, known, turnstile]
    · -- There is nobody at a turnstile that was never set up.
      simp [same, known, Turnstile.leave, Turnstile.free]
  · rw [if_neg (Ne.symm same), if_neg same, List.getD_eq_getElem?_getD]

theorem turnstile_find (id : RepositoryId) (gate : Nat) :
    (gates.find id).1.turnstile gate = gates.turnstile gate := by
  unfold find
  split
  next => rfl
  next =>
    simp only [turnstile, List.getD_eq_getElem?_getD, List.getElem?_append]
    split
    next => rfl
    next new =>
      rw [List.getElem?_eq_none (Nat.le_of_not_lt new)]
      cases gate - gates.turnstiles.length <;> rfl

/-- After a search every repository has the turnstile that it had, and the one that was searched for
has the one that was found. -/
theorem get?_current_find (id other : RepositoryId) :
    (gates.find id).1.current.get? other =
      if other = id then some (gates.find id).2 else gates.current.get? other := by
  unfold find
  split
  next gate found =>
    split
    next same => rw [same, found]
    next => rfl
  next => rw [Table.get?_put]

/-- If the turnstiles in use are set up, the one that is found is. -/
theorem find_lt_length {id : RepositoryId}
    (current : ∀ gate, gates.current.get? id = some gate → gate < gates.turnstiles.length) :
    (gates.find id).2 < (gates.find id).1.turnstiles.length := by
  unfold find
  split
  next gate found => exact current gate found
  next => simp

theorem length_turnstiles_le_find (id : RepositoryId) :
    gates.turnstiles.length ≤ (gates.find id).1.turnstiles.length := by
  unfold find
  split <;> simp

@[simp] theorem length_turnstiles_enter (gate task : Nat) :
    (gates.enter gate task).turnstiles.length = gates.turnstiles.length :=
  List.length_set

@[simp] theorem length_turnstiles_leave (gate : Nat) :
    (gates.leave gate).turnstiles.length = gates.turnstiles.length :=
  List.length_set

/-- The queue at a turnstile. -/
def queue (gate : Nat) : List Nat := (gates.turnstile gate).tasks

/-- At no turnstile does anybody wait without anybody inside. -/
def Settled : Prop := ∀ gate, (gates.turnstile gate).Settled

variable {gates}

theorem admits_iff (settled : gates.Settled) {gate task : Nat} :
    gates.admits gate task = true ↔ (gates.queue gate).head? = some task :=
  Turnstile.admits_iff (settled gate)

theorem Settled.enter (settled : gates.Settled) {gate : Nat}
    (known : gate < gates.turnstiles.length) (task : Nat) : (gates.enter gate task).Settled := by
  intro other
  rw [turnstile_enter _ known]
  split
  next => exact .enter task
  next => exact settled other

theorem Settled.leave (settled : gates.Settled) (gate : Nat) : (gates.leave gate).Settled := by
  intro other
  rw [turnstile_leave]
  split
  next => exact .leave
  next => exact settled other

/-- Whoever comes joins the queue at its end. -/
theorem queue_enter (settled : gates.Settled) {gate : Nat} (known : gate < gates.turnstiles.length)
    (task other : Nat) :
    (gates.enter gate task).queue other =
      if other = gate then gates.queue gate ++ [task] else gates.queue other := by
  rw [queue, turnstile_enter _ known]
  split
  next => exact Turnstile.tasks_enter (settled gate) task
  next => rfl

/-- When the first leaves, the others move up. -/
theorem queue_leave (settled : gates.Settled) (gate other : Nat) :
    (gates.leave gate).queue other =
      if other = gate then (gates.queue gate).tail else gates.queue other := by
  rw [queue, turnstile_leave]
  split
  next => exact Turnstile.tasks_leave (settled gate)
  next => rfl

end Gates

/-! ### Steps of fetches at turnstiles -/

namespace Fetch

/-- The turnstile at which a fetch stands in the queue. -/
def queued? : Fetch → Option Nat
  | .waiting gate => some gate
  | stage => stage.inside?

/-- What a step of a fetch does to the turnstiles. -/
inductive Passage (task : Nat) (id : RepositoryId) (gates : Gates) (stage : Fetch)
    (gates' : Gates) (stage' : Fetch) : Prop
  | stay (same : gates' = gates) (gate : stage'.gate? = stage.gate?)
      (queued : stage'.queued? = stage.queued?)
      (inside : ∀ gate, stage'.inside? = some gate →
        stage.inside? = some gate ∨ gates.admits gate task = true)
  | find (before : stage = .findGate) (found : gates' = (gates.find id).1)
      (after : stage' = .enter (gates.find id).2)
  | enter {gate : Nat} (before : stage = .enter gate) (entered : gates' = gates.enter gate task)
      (after : stage' = .recheck gate ∧ gates'.admits gate task = true ∨ stage' = .waiting gate)
  | leave {gate : Nat} (before : stage.inside? = some gate) (left : gates' = gates.leave gate)
      (after : ∃ result, stage' = .done result)

variable {task : Nat} {repository : Repository} {world world' : World} {stage stage' : Fetch}
  {reply : Option Reply}

theorem Steps.passage (steps : Steps task repository world stage reply world' stage') :
    Passage task repository.id world.gates stage world'.gates stage' := by
  cases steps with
  | answerAtOnce _ | goOn | recheck _ | note | ask _ | miss | answer _ =>
    exact .stay rfl rfl rfl fun _ inside => Or.inl inside
  | pass admitted =>
    exact .stay rfl rfl rfl fun _ inside => Or.inr (by cases inside; exact admitted)
  | find => exact .find rfl rfl rfl
  | enter admitted => exact .enter rfl rfl (Or.inl ⟨rfl, admitted⟩)
  | queue => exact .enter rfl rfl (Or.inr rfl)
  | drop _ | keep _ => exact .leave rfl rfl ⟨_, rfl⟩
  | leave inside _ result => exact .leave inside rfl ⟨result, rfl⟩

end Fetch

/-! ### Queues of a session -/

/-- The turnstile that the fetch of a task comes to or is at. -/
def gateOf? (session : Session) (task : Nat) : Option Nat :=
  (session.fetchOf? task).bind fun fetch => fetch.2.gate?

/-- The turnstile in whose queue the fetch of a task stands. -/
def placeOf? (session : Session) (task : Nat) : Option Nat :=
  (session.fetchOf? task).bind fun fetch => fetch.2.queued?

/-- The turnstile that the fetch of a task is inside of. -/
def insideOf? (session : Session) (task : Nat) : Option Nat :=
  (session.fetchOf? task).bind fun fetch => fetch.2.inside?

/-- The queues hold exactly the fetches that stand in them, and who is inside comes first. -/
structure Queued (session : Session) : Prop where
  settled : session.world.gates.Settled
  nodup : ∀ gate, (session.world.gates.queue gate).Nodup
  mem_iff : ∀ gate task,
    task ∈ session.world.gates.queue gate ↔ session.placeOf? task = some gate
  first : ∀ gate task, session.insideOf? task = some gate →
    (session.world.gates.queue gate).head? = some task
  known : ∀ gate task, session.gateOf? task = some gate →
    gate < session.world.gates.turnstiles.length
  current : ∀ gate id, session.world.gates.current.get? id = some gate →
    gate < session.world.gates.turnstiles.length

variable {session next final : Session} {move : Move} {moves : List Move}

/-- No two fetches are inside the same turnstile. -/
theorem Queued.eq_of_inside (queued : session.Queued) {gate first second : Nat}
    (one : session.insideOf? first = some gate) (other : session.insideOf? second = some gate) :
    first = second :=
  Option.some.inj ((queued.first gate first one).symm.trans (queued.first gate second other))

/-- Nothing changes for the queues if no fetch comes or leaves. -/
theorem Queued.of_same (queued : session.Queued)
    (turnstiles : ∀ gate, next.world.gates.turnstile gate = session.world.gates.turnstile gate)
    (places : ∀ task, next.placeOf? task = session.placeOf? task)
    (inside : ∀ gate task, next.insideOf? task = some gate →
      session.insideOf? task = some gate ∨ session.world.gates.admits gate task = true)
    (known : ∀ gate task, next.gateOf? task = some gate →
      gate < next.world.gates.turnstiles.length)
    (current : ∀ gate id, next.world.gates.current.get? id = some gate →
      gate < next.world.gates.turnstiles.length) : next.Queued := by
  have queue (gate : Nat) : next.world.gates.queue gate = session.world.gates.queue gate := by
    rw [Gates.queue, turnstiles, Gates.queue]
  refine ⟨fun gate => ?_, fun gate => ?_, fun gate task => ?_, fun gate task here => ?_, known,
    current⟩
  · rw [turnstiles]
    exact queued.settled gate
  · rw [queue]
    exact queued.nodup gate
  · rw [queue, places]
    exact queued.mem_iff gate task
  · rw [queue]
    obtain before | admitted := inside gate task here
    · exact queued.first gate task before
    · exact (Gates.admits_iff queued.settled).mp admitted

/-- The queues when a fetch joins one at its end. -/
theorem Queued.of_enter (queued : session.Queued) {task gate : Nat} {repository : Repository}
    {stage : Fetch} (under : session.fetchOf? task = some (repository, .enter gate))
    (gates : next.world.gates = session.world.gates.enter gate task)
    (mine : next.fetchOf? task = some (repository, stage))
    (here : stage = .recheck gate ∧ next.world.gates.admits gate task = true ∨
      stage = .waiting gate)
    (others : ∀ other, other ≠ task → next.fetchOf? other = session.fetchOf? other) :
    next.Queued := by
  have known : gate < session.world.gates.turnstiles.length :=
    queued.known gate task (by rw [gateOf?, under]; rfl)
  have queue (other : Nat) : next.world.gates.queue other =
      if other = gate then session.world.gates.queue gate ++ [task]
      else session.world.gates.queue other := by
    rw [gates, Gates.queue_enter queued.settled known]
  have settled : next.world.gates.Settled := gates ▸ queued.settled.enter known task
  -- The task stood in no queue before, and stands in this one now.
  have absent (other : Nat) : task ∉ session.world.gates.queue other := by
    rw [queued.mem_iff, placeOf?, under]
    exact fun place => nomatch place
  have place : next.placeOf? task = some gate := by
    obtain ⟨rfl, -⟩ | rfl := here <;> rw [placeOf?, mine] <;> rfl
  refine ⟨settled, fun other => ?_, fun other someone => ?_, fun other someone inside => ?_,
    fun other someone coming => ?_, fun other id => ?_⟩
  · rw [queue]
    split
    next =>
      rw [← List.concat_eq_append, List.nodup_concat]
      exact ⟨absent gate, queued.nodup gate⟩
    next => exact queued.nodup other
  · rw [queue]
    by_cases self : someone = task
    · subst self
      rw [place, Option.some.injEq]
      split
      next same => simp [same]
      next different => simp [absent other, Ne.symm different]
    · rw [placeOf?, others someone self, ← placeOf?, ← queued.mem_iff]
      split
      next same => simp [same, self]
      next => rfl
  · by_cases self : someone = task
    · subst self
      rw [insideOf?, mine] at inside
      obtain ⟨rfl, admitted⟩ | rfl := here
      · cases inside
        exact (Gates.admits_iff settled).mp admitted
      · cases inside
    · -- Who was first before is not overtaken.
      rw [insideOf?, others someone self] at inside
      have first := queued.first other someone inside
      rw [queue]
      split
      next same =>
        subst same
        rw [List.head?_append, first, Option.some_or]
      next => exact first
  · rw [gates, Gates.length_turnstiles_enter]
    by_cases self : someone = task
    · subst self
      rw [gateOf?, mine] at coming
      obtain ⟨rfl, -⟩ | rfl := here <;> cases coming <;> exact known
    · rw [gateOf?, others someone self] at coming
      exact queued.known other someone coming
  · rw [gates, Gates.length_turnstiles_enter]
    exact queued.current other id

/-- A fetch that is inside stands in the queue. -/
theorem placeOf?_of_insideOf? {task gate : Nat} (inside : session.insideOf? task = some gate) :
    session.placeOf? task = some gate := by
  obtain ⟨⟨repository, stage⟩, under, inside⟩ := Option.bind_eq_some_iff.mp inside
  rw [placeOf?, under]
  cases stage <;> first | exact inside | cases inside

/-- The queues when the first fetch of one leaves. -/
theorem Queued.of_leave (queued : session.Queued) {task gate : Nat}
    (inside : session.insideOf? task = some gate)
    (gates : next.world.gates = session.world.gates.leave gate)
    (mine : next.fetchOf? task = none)
    (others : ∀ other, other ≠ task → next.fetchOf? other = session.fetchOf? other) :
    next.Queued := by
  -- Whoever is inside is the first, so it is this task that the queue loses.
  obtain ⟨rest, line⟩ := List.head?_eq_some_iff.mp (queued.first gate task inside)
  have queue (other : Nat) : next.world.gates.queue other =
      if other = gate then rest else session.world.gates.queue other := by
    rw [gates, Gates.queue_leave queued.settled, line, List.tail_cons]
  have nodup := queued.nodup gate
  rw [line, List.nodup_cons] at nodup
  -- Nothing can be read off the fetch of the task any more.
  have other_of_some {someone other : Nat} {place : Fetch → Option Nat}
      (here : ((next.fetchOf? someone).bind fun fetch => place fetch.2) = some other) :
      someone ≠ task := by
    rintro rfl
    rw [mine] at here
    cases here
  refine ⟨gates ▸ queued.settled.leave gate, fun other => ?_, fun other someone => ?_,
    fun other someone here => ?_, fun other someone here => ?_, fun other id => ?_⟩
  · rw [queue]
    split
    next => exact nodup.2
    next => exact queued.nodup other
  · rw [queue]
    by_cases self : someone = task
    · subst self
      rw [placeOf?, mine]
      refine iff_of_false ?_ fun none => nomatch none
      split
      next => exact nodup.1
      next different =>
        rw [queued.mem_iff, placeOf?_of_insideOf? inside, Option.some.injEq]
        exact Ne.symm different
    · rw [placeOf?, others someone self, ← placeOf?, ← queued.mem_iff]
      split
      next same => simp [same, line, self]
      next => rfl
  · -- Only the task that leaves was inside this turnstile.
    have self := other_of_some here
    rw [insideOf?, others someone self] at here
    rw [queue]
    split
    next same => exact absurd (queued.eq_of_inside (same ▸ here) inside) self
    next => exact queued.first other someone here
  · rw [gates, Gates.length_turnstiles_leave]
    rw [gateOf?, others someone (other_of_some here)] at here
    exact queued.known other someone here
  · rw [gates, Gates.length_turnstiles_leave]
    exact queued.current other id

/-- What is read off the fetches of a session stays the same if one fetch moves and it stays the
same for that one. -/
theorem bind_fetchOf?_of_step {task : Nat} {repository : Repository} {stage stage' : Fetch}
    (under : session.fetchOf? task = some (repository, stage))
    (mine : next.fetchOf? task = stage'.underWay? repository)
    (others : ∀ other, other ≠ task → next.fetchOf? other = session.fetchOf? other)
    {place : Fetch → Option Nat} (same : place stage' = place stage)
    (ended : ∀ result, place (.done result) = none) (other : Nat) :
    ((next.fetchOf? other).bind fun fetch => place fetch.2) =
      (session.fetchOf? other).bind fun fetch => place fetch.2 := by
  by_cases self : other = task
  · subst self
    rw [under, mine, Option.bind_some, ← same]
    cases stage' with
    | done result => exact (ended result).symm
    | _ => rfl
  · rw [others other self]

/-- The queues when a deed is done. A turnstile that is forgotten keeps its queue. -/
theorem Queued.of_deed (queued : session.Queued) {deed : Deed}
    (fetches : ∀ task, next.fetchOf? task = session.fetchOf? task ∨
      session.fetchOf? task = none ∧ ∃ repository, next.fetchOf? task = some (repository, .lookup))
    (gates : next.world.gates = deed.gates session.world.gates) : next.Queued := by
  -- A fetch that has just begun stands nowhere yet.
  have same {place : Fetch → Option Nat} (none : place .lookup = none) (task : Nat) :
      ((next.fetchOf? task).bind fun fetch => place fetch.2) =
        (session.fetchOf? task).bind fun fetch => place fetch.2 := by
    obtain stayed | ⟨idle, repository, began⟩ := fetches task
    · rw [stayed]
    · rw [idle, began]
      exact none
  have turnstiles : next.world.gates.turnstiles = session.world.gates.turnstiles := by
    rw [gates]
    cases deed <;> rfl
  refine queued.of_same (fun gate => ?_) (same rfl) (fun gate task inside => ?_)
    (fun gate task coming => ?_) fun gate id held => ?_
  · rw [Gates.turnstile, turnstiles, ← Gates.turnstile]
  · exact Or.inl ((same (rfl : Fetch.inside? .lookup = none) task).symm.trans inside)
  · rw [turnstiles]
    exact queued.known gate task ((same (rfl : Fetch.gate? .lookup = none) task).symm.trans coming)
  · rw [turnstiles]
    refine queued.current gate id ?_
    rw [gates] at held
    cases deed with
    | forget other =>
      rw [Deed.gates, Gates.forget, Table.get?_erase] at held
      split at held
      next => cases held
      next => exact held
    | _ => exact held

/-- The queues when a fetch takes a step. -/
theorem Queued.of_passage (queued : session.Queued) {task : Nat} {repository : Repository}
    {stage stage' : Fetch} (under : session.fetchOf? task = some (repository, stage))
    (passage : Fetch.Passage task repository.id session.world.gates stage next.world.gates stage')
    (mine : next.fetchOf? task = stage'.underWay? repository)
    (others : ∀ other, other ≠ task → next.fetchOf? other = session.fetchOf? other) :
    next.Queued := by
  -- What is read off a fetch that is neither new at a turnstile nor over.
  have elsewhere {place : Fetch → Option Nat} {gate other : Nat}
      (here : ((next.fetchOf? other).bind fun fetch => place fetch.2) = some gate) :
      other = task ∧ place stage' = some gate ∨
        ((session.fetchOf? other).bind fun fetch => place fetch.2) = some gate := by
    by_cases self : other = task
    · subst self
      rw [mine] at here
      cases stage' <;> first | exact Or.inl ⟨rfl, here⟩ | cases here
    · exact Or.inr (others other self ▸ here)
  cases passage with
  | stay same coming place inside =>
    rw [← same] at inside
    refine queued.of_same (fun gate => by rw [same])
      (bind_fetchOf?_of_step under mine others place fun _ => rfl) (fun gate other here => ?_)
      (fun gate other here => ?_) fun gate id => same ▸ queued.current gate id
    · obtain ⟨rfl, here⟩ | before := elsewhere here
      · obtain before | admitted := inside gate here
        · exact Or.inl (by rw [insideOf?, under]; exact before)
        · exact Or.inr (same ▸ admitted)
      · exact Or.inl before
    · rw [same]
      rw [gateOf?, bind_fetchOf?_of_step under mine others coming fun _ => rfl] at here
      exact queued.known _ other here
  | find before found after =>
    subst before after
    refine queued.of_same (fun gate => by rw [found, Gates.turnstile_find])
      (bind_fetchOf?_of_step under mine others rfl fun _ => rfl) (fun gate other here => ?_)
      (fun gate other here => ?_) fun gate id held => ?_
    · obtain ⟨-, here⟩ | before := elsewhere here
      · cases here
      · exact Or.inl before
    · rw [found]
      obtain ⟨-, here⟩ | before := elsewhere here
      · cases here
        exact Gates.find_lt_length _ fun gate => queued.current gate _
      · exact Nat.lt_of_lt_of_le (queued.known gate other before)
          (Gates.length_turnstiles_le_find _ _)
    · rw [found, Gates.get?_current_find] at held
      rw [found]
      split at held
      next =>
        cases held
        exact Gates.find_lt_length _ fun gate => queued.current gate _
      next =>
        exact Nat.lt_of_lt_of_le (queued.current gate id held)
          (Gates.length_turnstiles_le_find _ _)
  | enter before entered after =>
    subst before
    have mine : next.fetchOf? task = some (repository, stage') := by
      obtain ⟨rfl, -⟩ | rfl := after <;> exact mine
    exact queued.of_enter under entered mine after others
  | @leave gate before left after =>
    obtain ⟨result, rfl⟩ := after
    have inside : session.insideOf? task = some gate := by rw [insideOf?, under]; exact before
    exact queued.of_leave inside left mine others

/-- Every move keeps the queues in order. -/
theorem Queued.of_move (queued : session.Queued) (moved : session.move move = some next) :
    next.Queued := by
  cases Shift.of_move moved with
  | deed _ fetches _ gates _ => exact queued.of_deed fetches gates
  | fetch under advanced world mine others =>
    have passage := (Fetch.Steps.of_advance advanced).passage
    exact queued.of_passage under (world ▸ passage) mine others

/-- Nobody is at a turnstile of a new session. -/
theorem Queued.new (pageSize : Nat) (scope : Scope) : (new pageSize scope).Queued where
  settled _ := Turnstile.settled_free
  nodup _ := List.nodup_nil
  mem_iff _ task := by
    rw [placeOf?, fetchOf?_new]
    exact iff_of_false List.not_mem_nil fun none => nomatch none
  first _ task inside := by
    rw [insideOf?, fetchOf?_new] at inside
    cases inside
  known _ task coming := by
    rw [gateOf?, fetchOf?_new] at coming
    cases coming
  current _ _ held := nomatch held

/-- In every run the queues are in order. -/
theorem Queued.of_play {pageSize : Nat} {scope : Scope}
    (played : (Session.new pageSize scope).play moves = some session) : session.Queued :=
  play_induction (fun _ session => session.Queued) (.new pageSize scope)
    (fun _ _ _ _ _ queued moved => queued.of_move moved) played

end CommitHistory.Session
