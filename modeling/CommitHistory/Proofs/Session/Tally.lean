/-
# How updates are counted

A refresh counts the updates that it runs and gives the count back when it is over. So for
every task the updates that have begun are those that its refreshes have given back and those
that the one under way has begun; and when no refresh is under way, the counts that were given
back add up to the number of updates.

## Main definitions

* `RefreshEvent.totalOf` — what the events of one task amount to.
* `Session.Tallied` — the updates of every task are accounted for.
* `Session.Reported` — what a call tells is what its refreshes have given back.

## Main results

* `Session.Tallied.of_play`, `Session.Reported.of_play` — this is so in every run.
* `Session.Tallied.sum_runs` — the counts add up to the number of updates.
-/

import CommitHistory.Proofs.Session.Duty
import Mathlib.Algebra.BigOperators.Ring.Finset

namespace CommitHistory.Session

/-! ### Events of one task -/

namespace RefreshEvent

/-- The task that carries the refresh out. -/
def task : RefreshEvent → Nat
  | .called task _ | .wanted task | .requested task | .began task | .cleared task | .ended task
  | .returned task _ => task

/-- How many updates begin. -/
def begun (event : RefreshEvent) : Nat := event.isBegan.toNat

/-- How many updates are given back by a refresh that is over. -/
def runs : RefreshEvent → Nat
  | .returned _ runs => runs
  | _ => 0

/-- What the events of one task amount to. -/
def totalOf (task : Nat) (amount : RefreshEvent → Nat) (events : List RefreshEvent) : Nat :=
  ((events.filter (·.task = task)).map amount).sum

variable {amount : RefreshEvent → Nat} {events : List RefreshEvent} {mover other : Nat}

theorem totalOf_append (mover : Nat) (amount : RefreshEvent → Nat)
    (first second : List RefreshEvent) :
    totalOf mover amount (first ++ second) =
      totalOf mover amount first + totalOf mover amount second := by
  rw [totalOf, List.filter_append, List.map_append, List.sum_append, totalOf, totalOf]

theorem totalOf_of_other (mine : ∀ event ∈ events, event.task = mover) (different : other ≠ mover)
    (amount : RefreshEvent → Nat) : totalOf other amount events = 0 := by
  have nobody : events.filter (·.task = other) = [] := by
    refine List.filter_eq_nil_iff.mpr fun event member here => different ?_
    rw [← mine event member, of_decide_eq_true here]
  rw [totalOf, nobody, List.map_nil, List.sum_nil]

theorem totalOf_of_mine (mine : ∀ event ∈ events, event.task = mover)
    (amount : RefreshEvent → Nat) : totalOf mover amount events = (events.map amount).sum := by
  rw [totalOf, List.filter_eq_self.mpr fun event member => decide_eq_true (mine event member)]

/-- All events together amount to what those of the single tasks do. -/
theorem sum_totalOf (amount : RefreshEvent → Nat) {tasks : Finset Nat}
    (known : ∀ event ∈ events, event.task ∈ tasks) :
    ∑ task ∈ tasks, totalOf task amount events = (events.map amount).sum := by
  induction events with
  | nil => simp [totalOf]
  | cons event rest ih =>
    obtain ⟨here, known⟩ := List.forall_mem_cons.mp known
    have split (task : Nat) : totalOf task amount (event :: rest) =
        (if event.task = task then amount event else 0) + totalOf task amount rest := by
      by_cases same : event.task = task <;> simp [totalOf, same]
    simp only [split, Finset.sum_add_distrib, Finset.sum_ite_eq, here, if_true, ih known,
      List.map_cons, List.sum_cons]

theorem countP_isBegan (events : List RefreshEvent) :
    events.countP isBegan = (events.map begun).sum := by
  induction events with
  | nil => rfl
  | cons event rest ih =>
    rw [List.countP_cons, List.map_cons, List.sum_cons, ih, Nat.add_comm, begun]
    cases event.isBegan <;> rfl

end RefreshEvent

open RefreshEvent (totalOf)

/-! ### Steps -/

namespace Refresh

/-- How many updates a refresh that is under way has begun. -/
def begun : Refresh → Nat
  | .tryStart runs | .takePending runs | .stop runs | .lookAgain runs => runs
  | .updating runs _ => runs + 1
  | .request _ | .trigger | .done _ => 0

/-- How many updates a refresh that is over has run. -/
def returned : Refresh → Nat
  | .done runs => runs
  | _ => 0

variable {task : Nat} {stage stage' : Refresh} {world world' : World} {reply : Option Reply}

theorem task_of_mem_events {marks : Marks} :
    ∀ event ∈ stage.events task marks, event.task = task := by
  unfold events
  split <;> simp [RefreshEvent.task]

/-- A refresh gives back its count when it is over and not before, and until then it counts the
updates that it begins. -/
theorem Steps.tally (steps : Refresh.Steps task world stage reply world' stage') :
    ((stage.events task world.display.marks).map RefreshEvent.runs).sum = stage'.returned ∧
      ((stage.events task world.display.marks).map RefreshEvent.begun).sum + stage.begun =
        stage'.returned + stage'.begun := by
  cases steps with
  | turnAway set | start set | begin set | finish set | again set | rest set =>
    simp [events, Display.marks, set, RefreshEvent.runs, RefreshEvent.begun, RefreshEvent.isBegan,
      begun, returned, Nat.add_comm]
  | request _ | look =>
    rw [events]
    split <;> exact ⟨rfl, rfl⟩
  | @work _ update =>
    cases update with
    | begin =>
      rw [events]
      split <;> exact ⟨rfl, rfl⟩
    | _ => exact ⟨rfl, rfl⟩
  | trigger | leave | stop => exact ⟨rfl, rfl⟩

end Refresh

/-! ### Runs -/

variable {session next : Session} {move : Move} {moves : List Move} {pageSize : Nat} {scope : Scope}
  {history : List RefreshEvent}

/-- How many updates the refresh of a task has begun that is under way. -/
def begunBy (session : Session) (task : Nat) : Nat :=
  ((session.refreshOf? task).map Refresh.begun).getD 0

/-- Every update that has begun was given back by a refresh, or is counted by one under way. -/
def Tallied (history : List RefreshEvent) (session : Session) : Prop :=
  ∀ task, totalOf task RefreshEvent.begun history =
    totalOf task RefreshEvent.runs history + session.begunBy task

theorem getD_map_begun_underWay? (stage : Refresh) :
    (stage.underWay?.map Refresh.begun).getD 0 = stage.begun := by
  cases stage <;> rfl

theorem Tallied.of_move (tallied : Tallied history session)
    (moved : session.move move = some next) :
    Tallied (history ++ session.refreshEvents move) next := by
  intro task
  have before := tallied task
  rw [RefreshEvent.totalOf_append, RefreshEvent.totalOf_append]
  cases RefreshShift.of_move moved with
  | rest _ refreshes events =>
    rw [events, before, begunBy, begunBy, refreshes]
    rfl
  | @begin mover clear idle _ mine others events =>
    rw [events, before, begunBy, begunBy]
    by_cases same : task = mover
    · subst same
      rw [idle, mine]
      cases clear <;> simp [totalOf, RefreshEvent.task, RefreshEvent.begun, RefreshEvent.isBegan,
        RefreshEvent.runs, Refresh.start, Refresh.begun]
    · rw [others task same]
      simp [totalOf, RefreshEvent.task, Ne.symm same]
  | @step mover stage stage' _ _ under steps _ mine others events =>
    rw [events, before, begunBy, begunBy]
    by_cases same : task = mover
    · subst same
      rw [under, mine, getD_map_begun_underWay?,
        RefreshEvent.totalOf_of_mine Refresh.task_of_mem_events,
        RefreshEvent.totalOf_of_mine Refresh.task_of_mem_events]
      obtain ⟨runs, begun⟩ := steps.tally
      rw [← runs] at begun
      simp only [Option.map_some, Option.getD_some, marks] at begun ⊢
      omega
    · rw [others task same, RefreshEvent.totalOf_of_other Refresh.task_of_mem_events same,
        RefreshEvent.totalOf_of_other Refresh.task_of_mem_events same]
      omega

/-- In every run every update is accounted for. -/
theorem Tallied.of_play (played : (new pageSize scope).play moves = some session) :
    Tallied ((new pageSize scope).refreshHistory moves) session := by
  refine play_induction
    (fun moves session => Tallied ((new pageSize scope).refreshHistory moves) session)
    (fun _ => rfl) (fun moves middle move next before tallied moved => ?_) played
  rw [refreshHistory, trace_concat before]
  exact tallied.of_move moved

/-- When no refresh is under way, the counts that were given back add up to the updates. -/
theorem Tallied.sum_runs (tallied : Tallied history session) (resting : session.Resting) :
    (history.map RefreshEvent.runs).sum = history.countP RefreshEvent.isBegan := by
  have known : ∀ event ∈ history, event.task ∈ (history.map RefreshEvent.task).toFinset :=
    fun event member => List.mem_toFinset.mpr (List.mem_map_of_mem member)
  rw [RefreshEvent.countP_isBegan, ← RefreshEvent.sum_totalOf _ known,
    ← RefreshEvent.sum_totalOf _ known]
  refine Finset.sum_congr rfl fun task _ => ?_
  rw [tallied task, begunBy, resting task]
  rfl

/-! ### Results -/

/-- How many updates the refreshes of a call have given back, if the call tells. -/
def Activity.reports? : Activity → Option Nat
  | .refresh stage => some stage.returned
  | .handle (.refreshing stage) => some stage.returned
  | .handle (.done runs) => some runs
  | .handle _ => some 0
  | _ => none

/-- What is given back in the next step of a refresh, if one is under way. -/
def Activity.returns (task : Nat) (marks : Marks) (activity : Activity) : Nat :=
  (((activity.refresh?.map fun stage => stage.events task marks).getD []).map
    RefreshEvent.runs).sum

theorem Refresh.returns_of_steps {task : Nat} {world world' : World} {reply : Option Reply}
    {stage stage' : Refresh} (steps : Refresh.Steps task world stage reply world' stage') :
    stage.returned + (((stage.underWay?.map fun stage =>
      stage.events task world.display.marks).getD []).map RefreshEvent.runs).sum =
        stage'.returned := by
  have given := steps.tally.1
  cases stage with
  | done _ => cases steps
  | _ => exact (Nat.zero_add _).trans given

theorem Handling.reports?_ofRefresh (stage : Refresh) :
    (Activity.handle (.ofRefresh stage)).reports? = some stage.returned := by
  cases stage <;> rfl

/-- A call tells more by what its refresh gives back. -/
theorem Activity.reports?_of_advance {task : Nat} {world world' : World} {reply : Option Reply}
    {activity after : Activity} {runs : Nat}
    (advanced : activity.advance task world reply = some (world', after))
    (told : after.reports? = some runs) :
    ∃ earlier, activity.reports? = some earlier ∧
      earlier + activity.returns task world.display.marks = runs := by
  cases activity with
  | refresh stage =>
    obtain ⟨_, stepped, rfl⟩ := exists_of_map_eq_some advanced
    cases told
    exact ⟨_, rfl, Refresh.returns_of_steps (.of_advance stepped)⟩
  | handle stage =>
    obtain ⟨stage', stepped, rfl⟩ := exists_of_map_eq_some advanced
    cases stage with
    | start notice =>
      cases reply <;> cases notice <;> cases stepped <;> cases told <;> exact ⟨0, rfl, rfl⟩
    | compare id =>
      cases reply <;> cases stepped
      refine ⟨0, rfl, ?_⟩
      split at told <;> cases told <;> rfl
    | refreshing refresh =>
      obtain ⟨_, refreshed, rfl⟩ := exists_of_map_eq_some stepped
      rw [Handling.reports?_ofRefresh] at told
      cases told
      exact ⟨_, rfl, Refresh.returns_of_steps (.of_advance refreshed)⟩
    | done _ => cases stepped
  | edit _ =>
    cases reply with
    | some _ => cases advanced
    | none =>
      obtain ⟨-, rfl⟩ := advanced
      cases told
  | ask _ =>
    cases reply with
    | none => cases advanced
    | some _ =>
      obtain ⟨-, rfl⟩ := advanced
      cases told
  | edited | told _ => cases advanced
  | _ =>
    obtain ⟨_, -, rfl⟩ := exists_of_map_eq_some advanced
    cases told

/-- How many updates the refreshes of a task have given back, if its call tells. A call that was not
made has given back nothing. -/
def reportOf? (session : Session) (task : Nat) : Option Nat :=
  (session.part? (fun activity => some activity.reports?) task).getD (some 0)

/-- What is given back in the next step of the refresh of a task. -/
def returnsOf (session : Session) (task : Nat) : Nat :=
  (session.part? (fun activity => some (activity.returns task session.marks)) task).getD 0

/-- What a call tells is what its refreshes have given back. -/
def Reported (history : List RefreshEvent) (session : Session) : Prop :=
  ∀ task runs, session.reportOf? task = some runs →
    totalOf task RefreshEvent.runs history = runs

/-- What a move gives back is given back by the refresh of its task. -/
theorem totalOf_refreshEvents (moved : session.move move = some next) (task : Nat) :
    totalOf task RefreshEvent.runs (session.refreshEvents move) =
      if task = session.mover move then session.returnsOf task else 0 := by
  cases under : session.refreshOf? (session.mover move) with
  | some stage =>
    have mine : ∀ event ∈ stage.events (session.mover move) session.marks,
        event.task = session.mover move := Refresh.task_of_mem_events
    rw [refreshEvents_of_under under]
    split
    next same =>
      subst same
      obtain ⟨activity, held, refreshes⟩ := Option.bind_eq_some_iff.mp under
      rw [RefreshEvent.totalOf_of_mine mine, returnsOf, part?_of_held held, Option.getD_some,
        Activity.returns, refreshes]
      rfl
    next other => exact RefreshEvent.totalOf_of_other mine other _
  | none =>
    -- A call may begin a refresh, and gives nothing back.
    have silent : totalOf task RefreshEvent.runs (session.refreshEvents move) = 0 := by
      rw [refreshEvents_of_none moved under]
      cases next.refreshOf? (session.mover move) with
      | none => rfl
      | some stage =>
        by_cases same : session.mover move = task <;>
          simp [totalOf, RefreshEvent.task, RefreshEvent.runs, same]
    rw [silent]
    split
    next same =>
      subst same
      cases held : session.activities[session.mover move]? with
      | none => rw [returnsOf, part?, held]; rfl
      | some activity =>
        rw [refreshOf?, part?_of_held held] at under
        rw [returnsOf, part?_of_held held, Option.getD_some, Activity.returns, under]
        rfl
    next => rfl

theorem Call.reports?_begin {call : Call} {runs : Nat} (told : call.begin.reports? = some runs) :
    runs = 0 := by
  cases call with
  | refresh clear => cases clear <;> cases told <;> rfl
  | handle _ => cases told; rfl
  | _ => cases told

/-- A call tells more by what its refresh gives back. -/
theorem reportOf?_of_move (moved : session.move move = some next) {task runs : Nat}
    (told : next.reportOf? task = some runs) :
    ∃ earlier, session.reportOf? task = some earlier ∧
      earlier + (if task = session.mover move then session.returnsOf task else 0) = runs := by
  by_cases same : task = session.mover move
  · subst same
    rw [if_pos rfl]
    obtain ⟨call, -, absent, begun⟩ | ⟨reply, activity, after, held, held', stepped⟩ :=
      activities_of_move moved
    · rw [reportOf?, part?_of_held begun, Option.getD_some] at told
      obtain rfl := Call.reports?_begin told
      refine ⟨0, ?_, ?_⟩
      · rw [reportOf?, part?_of_absent absent, Option.getD_none]
      · rw [returnsOf, part?_of_absent absent, Option.getD_none]
    · rw [reportOf?, part?_of_held held', Option.getD_some] at told
      obtain ⟨earlier, before, sum⟩ := Activity.reports?_of_advance stepped told
      refine ⟨earlier, ?_, ?_⟩
      · rw [reportOf?, part?_of_held held, Option.getD_some, before]
      · rw [returnsOf, part?_of_held held, Option.getD_some]
        exact sum
  · rw [reportOf?, part?_of_other _ moved same] at told
    exact ⟨runs, told, by rw [if_neg same, Nat.add_zero]⟩

/-- In every run a call tells what its refreshes have given back. -/
theorem Reported.of_play (played : (new pageSize scope).play moves = some session) :
    Reported ((new pageSize scope).refreshHistory moves) session := by
  refine play_induction
    (fun moves session => Reported ((new pageSize scope).refreshHistory moves) session)
    (fun task runs told => ?_) (fun moves middle move next before reported moved => ?_) played
  · rw [reportOf?, part?, new, List.getElem?_nil] at told
    exact Option.some.inj told
  intro task runs told
  obtain ⟨earlier, before', rfl⟩ := reportOf?_of_move moved told
  rw [refreshHistory, trace_concat before, RefreshEvent.totalOf_append,
    totalOf_refreshEvents moved]
  exact congrArg (· + _) (reported task earlier before')

/-- The result of a call that runs updates is what its refreshes have given back. -/
theorem Reported.totalOf_of_result? (reported : Reported history session) {task runs : Nat}
    (result : session.result? task = some (.runs runs)) :
    totalOf task RefreshEvent.runs history = runs := by
  obtain ⟨activity, held, ended⟩ := Option.bind_eq_some_iff.mp result
  refine reported task runs ?_
  rw [reportOf?, part?_of_held held, Option.getD_some]
  unfold Activity.result? at ended
  split at ended <;> cases ended <;> rfl

end CommitHistory.Session
