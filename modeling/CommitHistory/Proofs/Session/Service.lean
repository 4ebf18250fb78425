/-
# How refreshes are served

Whoever asks for a refresh can rely on an update that begins after the call. It may be run by
the refresh itself or by another one, and it is over before the refreshes come to rest. No
refresh counts an update that another one has run, so the counts that they return add up to
the number of updates.

## Main definitions

* `Session.Attended`, `Session.Heeded` — what becomes of a refresh, and of its wish to have the
  rows dropped.
* `Session.WellServed` — what can be asked of the refreshes of a run.

## Main results

* `Session.Attended.of_play`, `Session.Heeded.of_play` — nobody who calls is forgotten.
* `Session.refreshes_well_served` — the refreshes of every run are well served.
-/

import CommitHistory.Proofs.Session.Tally

namespace CommitHistory.Session

variable {session next final : Session} {move : Move} {moves : List Move} {pageSize : Nat}
  {scope : Scope} {history since : List RefreshEvent} {task : Nat}

/-! ### No call is forgotten -/

/-- A refresh that is still to ask for an update. -/
def Refresh.asks : Refresh → Bool
  | .request _ | .trigger => true
  | _ => false

/-- Since a call the refresh has not asked yet, or a request is pending, or an update has begun, and
is run or over. -/
def Attended (task : Nat) (since : List RefreshEvent) (session : Session) : Prop :=
  (∃ stage, session.refreshOf? task = some stage ∧ stage.asks = true) ∨
    session.marks.isPending = true ∨
    (∃ worker, session.updatesBy worker = true ∧ .began worker ∈ since) ∨
    ∃ worker, List.Sublist [.began worker, .ended worker] since

theorem Attended.of_move (attended : Attended task since session)
    (moved : session.move move = some next) :
    Attended task (since ++ session.refreshEvents move) next := by
  have shift := RefreshShift.of_move moved
  obtain ⟨stage, under, asks⟩ | pending | ⟨worker, runs, began⟩ | ⟨worker, run⟩ := attended
  · obtain stays | ⟨_, _, _, steps, marks, mine, -⟩ := shift.of_under under
    · exact Or.inl ⟨stage, stays, asks⟩
    · cases steps with
      | request _ => exact Or.inl ⟨_, mine, rfl⟩
      | trigger => exact Or.inr (Or.inl (congrArg Marks.isPending marks))
      | _ => cases asks
  · cases shift with
    | rest marks _ _ => exact Or.inr (Or.inl (marks ▸ pending))
    | begin _ _ marks _ _ _ => exact Or.inr (Or.inl (marks ▸ pending))
    | @step mover before after _ _ was steps marks mine others events =>
      by_cases takes : ∃ runs, before = .takePending runs
      · obtain ⟨runs, rfl⟩ := takes
        cases steps with
        | begin _ =>
          refine Or.inr (Or.inr (Or.inl ⟨mover, updatesBy_iff.mpr ⟨_, mine, rfl⟩, ?_⟩))
          rw [events, Refresh.events, if_pos pending]
          exact List.mem_append_right since (List.mem_singleton_self _)
        | finish idle =>
          rw [show session.marks.isPending = false from idle] at pending
          cases pending
      · refine Or.inr (Or.inl ?_)
        rw [marks, Refresh.isPending_marksAfter_iff]
        exact Or.inr ⟨pending, fun runs here => takes ⟨runs, here⟩⟩
  · have still {stage : Refresh} (under : next.refreshOf? worker = some stage)
        (runs : stage.updates = true) :
        Attended task (since ++ session.refreshEvents move) next :=
      Or.inr (Or.inr (Or.inl ⟨worker, updatesBy_iff.mpr ⟨stage, under, runs⟩,
        List.mem_append_left _ began⟩))
    obtain ⟨stage, under, runs⟩ := updatesBy_iff.mp runs
    obtain stays | ⟨_, _, _, steps, marks, mine, events⟩ := shift.of_under under
    · exact still stays runs
    · cases steps with
      | look | work => exact still mine rfl
      | leave =>
        refine Or.inr (Or.inr (Or.inr ⟨worker, ?_⟩))
        rw [events]
        exact (List.singleton_sublist.mpr began).append (.refl [RefreshEvent.ended worker])
      | _ => cases runs
  · exact Or.inr (Or.inr (Or.inr ⟨worker, run.trans (List.sublist_append_left since _)⟩))

/-- Since a call that wants the rows dropped, the refresh has not said so yet, or the next update is
to drop them, or an update has looked since. -/
def Heeded (task : Nat) (since : List RefreshEvent) (session : Session) : Prop :=
  session.refreshOf? task = some (.request true) ∨
    (.wanted task ∈ since ∧ session.marks.wantsClear = true) ∨
    ∃ worker, List.Sublist [.wanted task, .cleared worker] since

theorem Heeded.of_move (heeded : Heeded task since session)
    (moved : session.move move = some next) :
    Heeded task (since ++ session.refreshEvents move) next := by
  have shift := RefreshShift.of_move moved
  obtain under | ⟨said, wants⟩ | ⟨worker, run⟩ := heeded
  · obtain stays | ⟨_, _, _, -, marks, -, events⟩ := shift.of_under under
    · exact Or.inl stays
    · refine Or.inr (Or.inl ⟨?_, ?_⟩)
      · rw [events]
        exact List.mem_append_right since (List.mem_singleton_self _)
      · rw [marks, Refresh.wantsClear_marksAfter_iff]
        exact Or.inl rfl
  · have said' : .wanted task ∈ since ++ session.refreshEvents move := List.mem_append_left _ said
    cases shift with
    | rest marks _ _ => exact Or.inr (Or.inl ⟨said', marks ▸ wants⟩)
    | begin _ _ marks _ _ _ => exact Or.inr (Or.inl ⟨said', marks ▸ wants⟩)
    | @step mover before after _ _ was steps marks mine others events =>
      by_cases looks : ∃ runs, before = .updating runs .begin
      · obtain ⟨runs, rfl⟩ := looks
        refine Or.inr (Or.inr ⟨mover, ?_⟩)
        rw [events, Refresh.events, if_pos wants]
        exact (List.singleton_sublist.mpr said).append (.refl [RefreshEvent.cleared mover])
      · refine Or.inr (Or.inl ⟨said', ?_⟩)
        rw [marks, Refresh.wantsClear_marksAfter_iff]
        exact Or.inr ⟨wants, fun runs here => looks ⟨runs, here⟩⟩
  · exact Or.inr (Or.inr ⟨worker, run.trans (List.sublist_append_left since _)⟩)

/-- One thing at most is put down about the refreshes when a move is made. -/
theorem length_refreshEvents_le_one (session : Session) (move : Move) :
    (session.refreshEvents move).length ≤ 1 := by
  unfold refreshEvents
  split
  next stage _ =>
    unfold Refresh.events
    split <;> first | exact Nat.le.refl | exact Nat.zero_le _ | (split <;> simp)
  next =>
    rw [List.length_map]
    cases Option.bind _ _ <;> simp

theorem refreshOf?_of_called {clear : Bool} (moved : session.move move = some next)
    (called : session.refreshEvents move = [.called task clear]) :
    next.refreshOf? task = some (.start clear) := by
  cases RefreshShift.of_move moved with
  | rest _ _ events => rw [events] at called; cases called
  | begin _ _ _ mine _ events =>
    rw [events] at called
    cases called
    exact mine
  | @step _ stage _ _ _ _ _ _ _ _ events =>
    rw [events] at called
    unfold Refresh.events at called
    split at called <;> first | cases called | (split at called <;> cases called)

theorem Attended.of_play (attended : Attended task since session)
    (played : session.play moves = some final) :
    Attended task (since ++ session.refreshHistory moves) final := by
  refine play_induction
    (fun moves final => Attended task (since ++ session.refreshHistory moves) final) ?_ ?_ played
  · exact (List.append_nil since).symm ▸ attended
  · intro moves middle move next before attended moved
    rw [refreshHistory, trace_concat before, ← List.append_assoc]
    exact attended.of_move moved

theorem Heeded.of_play (heeded : Heeded task since session)
    (played : session.play moves = some final) :
    Heeded task (since ++ session.refreshHistory moves) final := by
  refine play_induction
    (fun moves final => Heeded task (since ++ session.refreshHistory moves) final) ?_ ?_ played
  · exact (List.append_nil since).symm ▸ heeded
  · intro moves middle move next before heeded moved
    rw [refreshHistory, trace_concat before, ← List.append_assoc]
    exact heeded.of_move moved

/-! ### What can be asked of refreshes -/

/-- What can be asked of the refreshes of a run, told by what was put down about them. -/
structure WellServed (history : List RefreshEvent) (session : Session) : Prop where
  /-- No two updates are run at the same time. -/
  apart : ∀ first second, session.updatesBy first = true → session.updatesBy second = true →
    first = second
  /-- An update begins only when the one before is over, and another one was requested since that
  one began. -/
  between : ∀ earlier between later first second,
    history = earlier ++ .began first :: between ++ .began second :: later →
    .ended first ∈ between ∧ ∃ asker, .requested asker ∈ between
  /-- After every call an update begins, and it is over before the refreshes come to rest. -/
  served : session.Resting → ∀ earlier later task clear,
    history = earlier ++ .called task clear :: later →
    ∃ worker, List.Sublist [.began worker, .ended worker] later
  /-- All that is requested while one update is run is answered by one more: it begins later, and
  every further one is requested after that. -/
  coalesced : session.Resting → ∀ earlier during later task asker,
    history = earlier ++ .began task :: during ++ .ended task :: later →
    .ended task ∉ during → .requested asker ∈ during →
    (∃ before worker after, later = before ++ .began worker :: after ∧
      (∀ other, .began other ∉ before) ∧
      ∀ first other second, after = first ++ .began other :: second →
        ∃ asker, .requested asker ∈ first) ∧
    ((∀ asker, .requested asker ∉ later) → later.countP RefreshEvent.isBegan = 1)
  /-- Whoever wants the rows dropped says so, and then an update sees it. -/
  cleared : session.Resting → ∀ earlier later task,
    history = earlier ++ .called task true :: later →
    ∃ worker, List.Sublist [.wanted task, .cleared worker] later
  /-- When the refreshes are at rest nothing is pending, and no rows are to be dropped. -/
  idle : session.Resting →
    session.world.display.isPending = false ∧ session.world.display.wantsClear = false
  /-- The counts that the refreshes give back add up to the number of updates. -/
  counted : session.Resting →
    (history.map RefreshEvent.runs).sum = history.countP RefreshEvent.isBegan
  /-- The result of a call is what its refreshes have given back. -/
  results : ∀ task runs, session.result? task = some (.runs runs) →
    RefreshEvent.totalOf task RefreshEvent.runs history = runs

theorem exists_updated_of_called {clear : Bool} {earlier later : List RefreshEvent}
    (played : (new pageSize scope).play moves = some session) (resting : session.Resting)
    (split : (new pageSize scope).refreshHistory moves = earlier ++ .called task clear :: later) :
    ∃ worker, List.Sublist [.began worker, .ended worker] later := by
  obtain ⟨_, move, after, middle, next, -, -, moved, onward, called, rfl⟩ :=
    exists_of_trace_split length_refreshEvents_le_one played split
  have asks : (Refresh.start clear).asks = true := by cases clear <;> rfl
  have attended : Attended task [] next :=
    Or.inl ⟨_, refreshOf?_of_called moved called, asks⟩
  have idle := (Throttled.of_play played).marks_of_resting resting
  obtain ⟨stage, under, -⟩ | pending | ⟨worker, runs, -⟩ | updated := attended.of_play onward
  · rw [resting task] at under
    cases under
  · rw [idle.1] at pending
    cases pending
  · rw [updatesBy, resting worker] at runs
    cases runs
  · exact updated

theorem exists_cleared_of_called {earlier later : List RefreshEvent}
    (played : (new pageSize scope).play moves = some session) (resting : session.Resting)
    (split : (new pageSize scope).refreshHistory moves = earlier ++ .called task true :: later) :
    ∃ worker, List.Sublist [.wanted task, .cleared worker] later := by
  obtain ⟨_, move, after, middle, next, -, -, moved, onward, called, rfl⟩ :=
    exists_of_trace_split length_refreshEvents_le_one played split
  have heeded : Heeded task [] next := Or.inl (refreshOf?_of_called moved called)
  have idle := (Throttled.of_play played).marks_of_resting resting
  obtain under | ⟨-, wants⟩ | cleared := heeded.of_play onward
  · rw [resting task] at under
    cases under
  · rw [idle.2] at wants
    cases wants
  · exact cleared

/-- The refreshes of every run are well served, whatever else happens and in whatever order. -/
theorem refreshes_well_served (played : (new pageSize scope).play moves = some session) :
    WellServed ((new pageSize scope).refreshHistory moves) session := by
  have throttled := Throttled.of_play played
  obtain ⟨duty, known, asked, -⟩ := OnDuty.of_play played
  refine ⟨fun first second one two => ?_, fun earlier between later first second split => ?_,
    fun resting earlier later task clear split => exists_updated_of_called played resting split,
    fun resting earlier during later task asker split lasts requested => ?_,
    fun resting earlier later task split => exists_cleared_of_called played resting split,
    throttled.marks_of_resting, (Tallied.of_play played).sum_runs,
    fun task runs result => (Reported.of_play played).totalOf_of_result? result⟩
  · obtain ⟨stage, here, updates⟩ := updatesBy_iff.mp one
    obtain ⟨stage', there, updates'⟩ := updatesBy_iff.mp two
    exact throttled.exclusive first second stage stage' here there
      (Refresh.holds_of_updates updates) (Refresh.holds_of_updates updates')
  · exact Duty.exists_of_began_began (split ▸ known)
  · have idle := asked.trans (throttled.marks_of_resting resting).1
    exact Duty.exists_of_requested (split ▸ known) idle lasts requested

/-- One refresh is asked for, and while its update looks for lines another one that wants the rows
dropped. The first runs an update for both. -/
def overlappingRun : List Move :=
  .start (.refresh false) :: List.replicate 5 (.advance 0 none) ++
    .start (.refresh true) :: List.replicate 3 (.advance 1 none) ++
    List.replicate 15 (.advance 0 none)

theorem refreshes_well_served_overlappingRun :
    ∃ session, (new 1 .lineage).play overlappingRun = some session ∧ session.Resting ∧
      session.result? 0 = some (.runs 2) ∧ session.result? 1 = some (.runs 0) ∧
      WellServed
        [.called 0 false, .requested 0, .began 0, .called 1 true, .wanted 1, .requested 1,
          .returned 1 0, .ended 0, .began 0, .cleared 0, .ended 0, .returned 0 2] session := by
  have played : (new 1 .lineage).play overlappingRun = some (sampleAfter overlappingRun) := rfl
  refine ⟨sampleAfter overlappingRun, played, fun task => ?_, rfl, rfl,
    refreshes_well_served played⟩
  match task with
  | 0 => rfl
  | 1 => rfl
  | _ + 2 => rfl

end CommitHistory.Session
