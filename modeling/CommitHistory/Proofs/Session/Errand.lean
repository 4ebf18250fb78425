/-
# Errands

A refresh that is to drop rows sets a mark at the tree, and the mark does not say whose rows. The
next update that has its turn takes the mark away, looks which repository is selected now, and
drops the rows of that one. So the errand of a call can be followed from the call to the end of
this update, and it is told from what is put down about the moves.

## Main definitions

* `Session.sweep` — the rows that a refresh drops when a move is made.
* `Errand`, `Errand.after` — how far an errand has come, and what was dropped on it.
* `Errand.Fits` — what an errand says about the refreshes that are under way.
* `Session.Called`, `Session.errand` — the calls of a run that want rows dropped, and their errands.

## Main results

* `Session.refresh_of_move` — a refresh takes a step of its own when its task moves.
* `Errand.Fits.of_move` — every move takes an errand on as it should.
* `Session.errand_of_resting` — when the refreshes rest, an update has done the errand.
-/

import CommitHistory.Proofs.Session.Choice
import CommitHistory.Proofs.Session.Showing
import CommitHistory.Proofs.Session.Tally

namespace CommitHistory.Session

variable {session next final : Session} {move : Move} {moves : List Move} {pageSize : Nat}
  {scope : Scope} {id : RepositoryId} {task : Nat}

/-! ### Rows that refreshes drop -/

/-- The repository whose rows the next step of an update drops. -/
def Update.sweeps : Update → List RepositoryId
  | .clear id => [id]
  | _ => []

/-- The repository whose rows the next step of a refresh drops. -/
def Refresh.sweeps : Refresh → List RepositoryId
  | .updating _ update => update.sweeps
  | _ => []

/-- The repository whose rows a refresh drops when a move is made. -/
def sweep (session : Session) (move : Move) : List RepositoryId :=
  ((session.refreshOf? (session.mover move)).map Refresh.sweeps).getD []

theorem Refresh.eq_of_mem_sweeps {stage : Refresh} (swept : id ∈ stage.sweeps) :
    ∃ runs, stage = .updating runs (.clear id) := by
  cases stage with
  | updating runs update =>
    cases update with
    | clear other =>
      obtain rfl := List.mem_singleton.mp swept
      exact ⟨runs, rfl⟩
    | _ => cases swept
  | _ => cases swept

theorem exists_clear_of_mem_sweep (swept : id ∈ session.sweep move) :
    ∃ runs, session.refreshOf? (session.mover move) = some (.updating runs (.clear id)) := by
  rw [sweep] at swept
  cases under : session.refreshOf? (session.mover move) with
  | none => simp [under] at swept
  | some stage =>
    rw [under, Option.map_some, Option.getD_some] at swept
    obtain ⟨runs, rfl⟩ := Refresh.eq_of_mem_sweeps swept
    exact ⟨runs, rfl⟩

theorem Activity.deed_of_refresh? {activity : Activity} {stage : Refresh}
    (under : activity.refresh? = some stage) (world : World) :
    activity.deed world = stage.deed := by
  cases activity with
  | refresh _ =>
    obtain rfl := Refresh.eq_of_underWay? under
    rfl
  | handle handling =>
    cases handling with
    | refreshing _ =>
      obtain rfl := Refresh.eq_of_underWay? under
      rfl
    | _ => cases under
  | follow follow =>
    cases follow with
    | handling _ handling =>
      cases handling with
      | refreshing _ =>
        obtain rfl := Refresh.eq_of_underWay? under
        rfl
      | _ => cases under
    | refreshing _ _ =>
      obtain rfl := Refresh.eq_of_underWay? under
      rfl
    | _ => cases under
  | _ => cases under

/-- What a refresh drops is put down in the history of the run. -/
theorem dropped_of_mem_sweep (swept : id ∈ session.sweep move) :
    .dropped id ∈ session.events move := by
  obtain ⟨runs, clears⟩ := exists_clear_of_mem_sweep swept
  obtain ⟨activity, held, under⟩ := Option.bind_eq_some_iff.mp clears
  cases move with
  | start call => simp [mover] at held
  | advance task reply =>
    have held : session.activities[task]? = some activity := held
    refine dropped_mem_events_iff.mpr (Or.inl ⟨?_, Or.inl ?_⟩)
    · rw [fetchOf?, held, Option.bind_some, Activity.fetch?_of_refresh? under]
      rfl
    · rw [deedOf, held, Option.map_some, Option.getD_some, Activity.deed_of_refresh? under]
      rfl

/-- The rows of a repository are dropped more often in the end exactly if the history of the run
says that they were dropped. -/
theorem generation_lt_iff (played : session.play moves = some final) :
    session.world.store.generation id < final.world.store.generation id ↔
      .dropped id ∈ session.history moves := by
  refine play_induction (fun moves final =>
    session.world.store.generation id < final.world.store.generation id ↔
      .dropped id ∈ session.history moves) (iff_of_false (Nat.lt_irrefl _) List.not_mem_nil) ?_
    played
  intro moves middle move next before ih moved
  rw [history_concat before, List.mem_append, ← ih]
  have earlier := generation_le_of_play id before
  cases Fate.of_move id moved with
  | kept _ _ _ _ _ generation _ events => simp [generation, events]
  | dropped drops event =>
    exact iff_of_true (Nat.lt_of_le_of_lt earlier drops.generation) (Or.inr event)
  | spared keeps silent => simp [keeps.generation, silent]

/-! ### Steps of refreshes -/

section

variable {world world' : World} {reply : Option Reply}

/-- A step of an activity in which a refresh is under way is a step of the refresh. -/
theorem Activity.exists_advance_of_refresh? {activity after : Activity} {stage : Refresh}
    (under : activity.refresh? = some stage)
    (advanced : activity.advance task world reply = some (world', after)) :
    ∃ stage', stage.advance task world reply = some (world', stage') ∧
      after.refresh? = stage'.underWay? := by
  cases activity with
  | refresh _ =>
    obtain rfl := Refresh.eq_of_underWay? under
    obtain ⟨stage', stepped, rfl⟩ := exists_of_map_eq_some advanced
    exact ⟨stage', stepped, rfl⟩
  | handle handling =>
    obtain ⟨_, handled, rfl⟩ := exists_of_map_eq_some advanced
    cases handling with
    | refreshing _ =>
      obtain rfl := Refresh.eq_of_underWay? under
      obtain ⟨stage', stepped, rfl⟩ := exists_of_map_eq_some handled
      exact ⟨stage', stepped, Handling.refresh?_ofRefresh stage'⟩
    | _ => cases under
  | follow follow =>
    obtain ⟨_, followed, rfl⟩ := exists_of_map_eq_some advanced
    cases follow with
    | handling feed handling =>
      obtain ⟨_, handled, rfl⟩ := exists_of_map_eq_some followed
      cases handling with
      | refreshing _ =>
        obtain rfl := Refresh.eq_of_underWay? under
        obtain ⟨stage', stepped, rfl⟩ := exists_of_map_eq_some handled
        refine ⟨stage', stepped, ?_⟩
        exact (Follow.refresh?_ofHandling feed _).trans (Handling.refresh?_ofRefresh stage')
      | _ => cases under
    | refreshing feed _ =>
      obtain rfl := Refresh.eq_of_underWay? under
      obtain ⟨stage', stepped, rfl⟩ := exists_of_map_eq_some followed
      exact ⟨stage', stepped, Follow.refresh?_ofRefresh feed stage'⟩
    | _ => cases under
  | _ => cases under

/-- A refresh that is under way stays where it is when another task moves, and takes a step when its
own task does. -/
theorem refresh_of_move {stage : Refresh} (moved : session.move move = some next)
    (under : session.refreshOf? task = some stage) :
    next.refreshOf? task = some stage ∧ task ≠ session.mover move ∨
      task = session.mover move ∧ ∃ reply stage',
        stage.advance task session.world reply = some (next.world, stage') ∧
        next.refreshOf? task = stage'.underWay? := by
  by_cases mover : task = session.mover move
  · subst mover
    obtain ⟨_, -, absent, -⟩ | ⟨reply, before, after, held, held', stepped⟩ :=
      activities_of_move moved
    · cases under.symm.trans (part?_of_absent absent)
    · have before' := under.symm.trans (part?_of_held held)
      obtain ⟨stage', advanced, goes⟩ := Activity.exists_advance_of_refresh? before'.symm stepped
      exact Or.inr ⟨rfl, reply, stage', advanced, (part?_of_held held').trans goes⟩
  · exact Or.inl ⟨(part?_of_other Activity.refresh? moved mover).trans under, mover⟩

/-- Whatever is put down about refreshes when a move is made is about the task that moves. -/
theorem task_of_mem_refreshEvents {event : RefreshEvent}
    (member : event ∈ session.refreshEvents move) : event.task = session.mover move := by
  unfold refreshEvents at member
  split at member
  next => exact Refresh.task_of_mem_events event member
  next =>
    obtain ⟨_, -, rfl⟩ := List.mem_map.mp member
    rfl

/-- Only an update that has just got its turn sees that it is to drop rows. -/
theorem exists_begin_of_cleared {worker : Nat}
    (cleared : .cleared worker ∈ session.refreshEvents move) :
    ∃ runs, session.refreshOf? (session.mover move) = some (.updating runs .begin) := by
  unfold refreshEvents at cleared
  split at cleared
  next stage under =>
    cases stage with
    | updating runs update =>
      cases update with
      | begin => exact ⟨runs, under⟩
      | _ => simp [Refresh.events] at cleared
    | request _ | tryStart _ | takePending _ | lookAgain _ =>
      rw [Refresh.events] at cleared
      split at cleared <;> simp at cleared
    | _ => simp [Refresh.events] at cleared
  next => simp at cleared

/-- Where an update goes on that has looked which repository is selected. -/
def Update.ofSelected : Option RepositoryId → Update
  | some id => .clear id
  | none => .showing .start

theorem Update.advance_findCleared {update : Update} (catalogued : session.Catalogued)
    (advanced : Update.findCleared.advance task session.world reply = some (world', update)) :
    update = .ofSelected session.world.store.selected? := by
  cases reply with
  | some _ => cases advanced
  | none =>
    rw [advance] at advanced
    split at advanced <;> cases advanced
    next repository selected =>
      rw [catalogued.selected?_of_repository selected]
      rfl
    next nothing =>
      cases selected : session.world.store.selected? with
      | none => rfl
      | some id =>
        obtain ⟨repository, found, -⟩ := catalogued.exists_of_selected? selected
        cases nothing.symm.trans found

end

/-! ### Errands -/

/-- How far the errand of a refresh has come that is to have rows dropped. -/
inductive Errand where
  /-- The refresh has not said yet that rows are to be dropped. -/
  | unsaid
  /-- The next update that has its turn is to drop rows. -/
  | said
  /-- The update of a task is to look which repository is selected. -/
  | looking (worker : Nat)
  /-- The update of a task has seen what is selected, and meanwhile these rows were dropped. -/
  | found (worker : Nat) (selected? : Option RepositoryId) (swept : List RepositoryId)
  /-- The update is over. -/
  | finished (selected? : Option RepositoryId) (swept : List RepositoryId)
deriving DecidableEq, Repr

namespace Errand

/-- The repository that was selected when an errand came to look. -/
def selected? : Errand → Option RepositoryId
  | .found _ selected? _ | .finished selected? _ => selected?
  | _ => none

/-- The rows that refreshes have dropped on an errand. -/
def swept : Errand → List RepositoryId
  | .found _ _ swept | .finished _ swept => swept
  | _ => []

/-- How far an errand of a task has come when a move is made. -/
def after (task : Nat) (session : Session) (move : Move) : Errand → Errand
  | .unsaid => if .wanted task ∈ session.refreshEvents move then .said else .unsaid
  | .said =>
    if .cleared (session.mover move) ∈ session.refreshEvents move then
      .looking (session.mover move)
    else .said
  | .looking worker =>
    if session.mover move = worker then .found worker session.world.store.selected? []
    else .looking worker
  | .found worker selected? swept =>
    if .ended worker ∈ session.refreshEvents move then
      .finished selected? (swept ++ session.sweep move)
    else .found worker selected? (swept ++ session.sweep move)
  | .finished selected? swept => .finished selected? swept

variable {errand : Errand}

/-- Whatever was dropped on an errand was dropped before the move, or is dropped by it. -/
theorem mem_swept_of_after (swept : id ∈ (errand.after task session move).swept) :
    id ∈ errand.swept ∨ id ∈ session.sweep move := by
  cases errand with
  | unsaid | said | looking _ =>
    rw [after] at swept
    split at swept <;> cases swept
  | found worker selected? earlier =>
    rw [after] at swept
    split at swept <;> exact List.mem_append.mp swept
  | finished _ _ => exact Or.inl swept

end Errand

/-- As long as a refresh carries out updates, the other ones drop no rows. -/
theorem Throttled.sweep_of_other (throttled : session.Throttled) {stage : Refresh}
    (under : session.refreshOf? task = some stage) (holds : stage.holds = true)
    (other : task ≠ session.mover move) : session.sweep move = [] := by
  refine List.eq_nil_iff_forall_not_mem.mpr fun id swept => other ?_
  obtain ⟨_, clears⟩ := exists_clear_of_mem_sweep swept
  exact throttled.exclusive _ _ _ _ under clears holds rfl

/-- An update that has seen which repository is selected. -/
def Update.hasLooked : Update → Bool
  | .clear _ | .showing _ | .leave => true
  | _ => false

/-- What an errand says about the refreshes that are under way, and about what is still to be
dropped. -/
def Errand.Fits (task : Nat) (session : Session) : Errand → Prop
  | .unsaid => session.refreshOf? task = some (.request true)
  | .said => session.marks.wantsClear = true
  | .looking worker => ∃ runs, session.refreshOf? worker = some (.updating runs .findCleared)
  | .found worker selected? swept =>
    ∃ runs update, session.refreshOf? worker = some (.updating runs update) ∧
      update.hasLooked = true ∧ swept ++ update.sweeps = selected?.toList
  | .finished selected? swept => swept = selected?.toList

namespace Errand.Fits

theorem after_unsaid (under : session.refreshOf? task = some (.request true))
    (moved : session.move move = some next) :
    (Errand.unsaid.after task session move).Fits task next := by
  rw [after]
  obtain ⟨stays, other⟩ | ⟨rfl, reply, stage', advanced, -⟩ := refresh_of_move moved under
  · have silent : .wanted task ∉ session.refreshEvents move := fun said =>
      other (task_of_mem_refreshEvents said)
    rw [if_neg silent]
    exact stays
  · have event := refreshEvents_of_under under
    rw [if_pos (event ▸ List.mem_singleton_self _)]
    have wants : (Refresh.marksAfter session.marks (.request true)).wantsClear = true :=
      Refresh.wantsClear_marksAfter_iff.mpr (Or.inl rfl)
    exact (congrArg Marks.wantsClear (Refresh.Steps.of_advance advanced).marks).trans wants

theorem after_said (wants : session.marks.wantsClear = true)
    (moved : session.move move = some next) :
    (Errand.said.after task session move).Fits task next := by
  rw [after]
  split
  next cleared =>
    obtain ⟨runs, under⟩ := exists_begin_of_cleared cleared
    obtain ⟨-, other⟩ | ⟨-, reply, stage', advanced, mine⟩ := refresh_of_move moved under
    · exact absurd rfl other
    · refine ⟨runs, mine.trans ?_⟩
      obtain ⟨update, looked, rfl⟩ := exists_of_map_eq_some advanced
      cases reply with
      | some _ => cases looked
      | none =>
        obtain ⟨-, rfl⟩ := Prod.mk.inj (Option.some.inj looked)
        have wants : session.world.display.wantsClear = true := wants
        rw [if_pos wants]
        rfl
  next uncleared =>
    have still (marks : next.marks = session.marks) : next.marks.wantsClear = true :=
      marks ▸ wants
    cases RefreshShift.of_move moved with
    | rest marks _ _ => exact still marks
    | begin _ _ marks _ _ _ => exact still marks
    | @step mover before _ _ _ _ _ marks _ _ events =>
      refine (congrArg Marks.wantsClear marks).trans ?_
      refine Refresh.wantsClear_marksAfter_iff.mpr (Or.inr ⟨wants, ?_⟩)
      -- An update that takes the mark says so, and then its task is the one that moves.
      rintro runs rfl
      have cleared : .cleared mover ∈ session.refreshEvents move := by
        rw [events, Refresh.events, if_pos wants]
        exact List.mem_singleton_self _
      exact uncleared ((task_of_mem_refreshEvents cleared).subst
        (motive := fun task => .cleared task ∈ session.refreshEvents move) cleared)

theorem after_looking {worker runs : Nat} (catalogued : session.Catalogued)
    (under : session.refreshOf? worker = some (.updating runs .findCleared))
    (moved : session.move move = some next) :
    ((Errand.looking worker).after task session move).Fits task next := by
  rw [after]
  obtain ⟨stays, other⟩ | ⟨rfl, reply, stage', advanced, mine⟩ := refresh_of_move moved under
  · rw [if_neg (Ne.symm other)]
    exact ⟨runs, stays⟩
  · rw [if_pos rfl]
    obtain ⟨update, looked, rfl⟩ := exists_of_map_eq_some advanced
    obtain rfl := Update.advance_findCleared catalogued looked
    cases selected : session.world.store.selected? with
    | none =>
      rw [selected] at mine
      exact ⟨runs, .showing .start, mine, rfl, rfl⟩
    | some id =>
      rw [selected] at mine
      exact ⟨runs, .clear id, mine, rfl, rfl⟩

theorem after_found {worker runs : Nat} {update : Update} {selected? : Option RepositoryId}
    {swept : List RepositoryId} (throttled : session.Throttled)
    (under : session.refreshOf? worker = some (.updating runs update))
    (looked : update.hasLooked = true) (rest : swept ++ update.sweeps = selected?.toList)
    (moved : session.move move = some next) :
    ((Errand.found worker selected? swept).after task session move).Fits task next := by
  rw [after]
  obtain ⟨stays, other⟩ | ⟨rfl, reply, stage', advanced, mine⟩ := refresh_of_move moved under
  · -- Nobody else drops rows meanwhile, for the refresh of the worker is the one that updates.
    have silent : .ended worker ∉ session.refreshEvents move := fun ended =>
      other (task_of_mem_refreshEvents ended)
    rw [if_neg silent, throttled.sweep_of_other under rfl other, List.append_nil]
    exact ⟨runs, update, stays, looked, rest⟩
  · have swept' : session.sweep move = update.sweeps := by
      rw [sweep, under]
      rfl
    rw [swept', rest]
    obtain ⟨update', stepped, rfl⟩ := exists_of_map_eq_some advanced
    have event := refreshEvents_of_under under
    generalize next.world = world at stepped
    cases Update.Steps.of_advance stepped with
    | clear id =>
      rw [if_neg (event ▸ List.not_mem_nil)]
      exact ⟨runs, _, mine, rfl, List.append_nil _⟩
    | @showLines _ stage' =>
      rw [if_neg (event ▸ List.not_mem_nil)]
      cases stage' <;> exact ⟨runs, _, mine, rfl, List.append_nil _⟩
    | leave =>
      rw [if_pos (event ▸ List.mem_singleton_self _)]
      exact rfl
    | _ => cases looked

/-- Every move takes an errand on as it should. -/
theorem of_move {errand : Errand} (fits : errand.Fits task session) (throttled : session.Throttled)
    (catalogued : session.Catalogued) (moved : session.move move = some next) :
    (errand.after task session move).Fits task next := by
  cases errand with
  | unsaid => exact after_unsaid fits moved
  | said => exact after_said fits moved
  | looking worker =>
    obtain ⟨runs, under⟩ := fits
    exact after_looking catalogued under moved
  | found worker selected? swept =>
    obtain ⟨runs, update, under, looked, rest⟩ := fits
    exact after_found throttled under looked rest moved
  | finished _ _ => exact fits

/-- When the refreshes rest, an errand is over. -/
theorem exists_finished_of_resting {errand : Errand} (fits : errand.Fits task session)
    (throttled : session.Throttled) (resting : session.Resting) :
    ∃ selected?, errand = .finished selected? selected?.toList := by
  cases errand with
  | unsaid => cases (resting task).symm.trans fits
  | said => cases (throttled.marks_of_resting resting).2.symm.trans fits
  | looking worker =>
    obtain ⟨_, under⟩ := fits
    cases (resting worker).symm.trans under
  | found worker _ _ =>
    obtain ⟨_, _, under, -⟩ := fits
    cases (resting worker).symm.trans under
  | finished selected? swept =>
    obtain rfl : swept = selected?.toList := fits
    exact ⟨selected?, rfl⟩

theorem of_play {errand : Errand} (fits : errand.Fits task session) (throttled : session.Throttled)
    (catalogued : session.Catalogued) (played : session.play moves = some final) :
    (session.watch (Errand.after task) errand moves).Fits task final := by
  -- The two invariants of the session go along, for every step needs them.
  have kept : (session.watch (Errand.after task) errand moves).Fits task final ∧
      final.Throttled ∧ final.Catalogued := by
    refine play_induction (fun moves final =>
      (session.watch (Errand.after task) errand moves).Fits task final ∧
        final.Throttled ∧ final.Catalogued) ⟨fits, throttled, catalogued⟩ ?_ played
    rintro moves middle move next before ⟨fits, throttled, catalogued⟩ moved
    rw [watch_concat _ _ before]
    exact ⟨fits.of_move throttled catalogued moved, throttled.of_move moved,
      catalogued.of_move moved⟩
  exact kept.1

end Errand.Fits

/-! ### Calls -/

/-- In a run a refresh that is to drop rows is called in the session `asked`, and then the moves
`later` are made. -/
def Called (first : Session) (moves : List Move) (asked : Session) (later : List Move) : Prop :=
  ∃ before, moves = before ++ .start (.refresh true) :: later ∧ first.play before = some asked

/-- How far the errand of a refresh that is called in a session has come after the moves since. -/
def errand (asked : Session) (later : List Move) : Errand :=
  (asked.start (.refresh true)).watch (Errand.after asked.activities.length) .unsaid later

variable {first asked : Session} {later : List Move}

theorem Called.play (called : first.Called moves asked later)
    (played : first.play moves = some final) :
    (asked.start (.refresh true)).play later = some final := by
  obtain ⟨before, rfl, reached⟩ := called
  rwa [play_append_of_play reached] at played

/-- In a run the errand of every call fits the refreshes that are under way. -/
theorem Called.fits (called : (new pageSize scope).Called moves asked later)
    (played : (new pageSize scope).play moves = some final) :
    (asked.errand later).Fits asked.activities.length final := by
  have since := called.play played
  obtain ⟨before, -, reached⟩ := called
  have started : asked.move (.start (.refresh true)) = some (asked.start (.refresh true)) := rfl
  have held : (asked.start (.refresh true)).activities[asked.activities.length]? =
      some (.refresh (.request true)) := List.getElem?_concat_length
  have fits : Errand.unsaid.Fits asked.activities.length (asked.start (.refresh true)) :=
    part?_of_held held
  exact fits.of_play ((Throttled.of_play reached).of_move started)
    ((Catalogued.of_play reached).of_move started) since

/-- What is dropped on an errand was there at the call, or has come since. -/
theorem generation_lt_of_swept (played : (asked.start (.refresh true)).play later = some final)
    (swept : id ∈ (asked.errand later).swept) :
    asked.world.store.generation id < final.world.store.generation id := by
  refine play_induction (fun later final => id ∈ (asked.errand later).swept →
    asked.world.store.generation id < final.world.store.generation id) nofun ?_ played swept
  intro later middle move next before ih moved swept
  rw [errand, watch_concat _ _ before] at swept
  obtain earlier | here := Errand.mem_swept_of_after swept
  · exact Nat.lt_of_lt_of_le (ih earlier) (generation_le_of_move id moved)
  · have once := (drops_of_dropped moved (dropped_of_mem_sweep here)).generation
    have below := generation_le_of_play id before
    exact Nat.lt_of_le_of_lt below once

/-- When the refreshes of a run rest, an update has looked on the errand of every call what is
selected, and has dropped the rows of that repository and of no other one. -/
theorem errand_of_resting (played : (new pageSize scope).play moves = some final)
    (resting : final.Resting) (called : (new pageSize scope).Called moves asked later) :
    ∃ selected?, asked.errand later = .finished selected? selected?.toList :=
  (called.fits played).exists_finished_of_resting (.of_play played) resting

theorem swept_of_resting (played : (new pageSize scope).play moves = some final)
    (resting : final.Resting) (called : (new pageSize scope).Called moves asked later) :
    (asked.errand later).swept = (asked.errand later).selected?.toList := by
  obtain ⟨_, done⟩ := errand_of_resting played resting called
  rw [done]
  rfl

end CommitHistory.Session
