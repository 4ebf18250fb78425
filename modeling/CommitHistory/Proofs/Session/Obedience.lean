/-
# Whose rows a refresh drops

Refreshes drop rows on errands only, and an errand drops the rows of the repository that is selected
when it comes to look. If that is the one that was selected at the call, the call has got what it
asked for. If another one was selected while the refresh waited for its turn, the rows that the
caller saw stay, and those of the other one are dropped in their place.

## Main definitions

* `Session.Sent`, `Session.Traced` — what makes refreshes drop rows goes back to calls.
* `Session.Obeyed` — the calls of a run have dropped what they were to drop, and nothing else.
* `Session.Abiding` — errands find selected what was selected at the calls.

## Main results

* `Session.Traced.of_play` — in every run refreshes drop rows on errands only.
* `Session.obeyed_iff_abiding` — when the calls of a run are obeyed.
-/

import CommitHistory.Proofs.Session.Errand

namespace CommitHistory.Session

variable {session next final first asked : Session} {move : Move} {moves later : List Move}
  {pageSize : Nat} {scope : Scope} {id : RepositoryId} {task : Nat}

/-! ### Nothing is dropped without an errand -/

section

variable {world world' : World} {reply : Option Reply} {stage : Refresh} {runs : Nat}

/-- A refresh never comes back to its first stage. -/
theorem Refresh.ne_request_of_advance {stage' : Refresh} {clear : Bool}
    (advanced : stage.advance task world reply = some (world', stage')) :
    stage'.underWay? ≠ some (.request clear) := by
  intro same
  cases Steps.of_advance advanced <;> cases same

theorem Handling.ne_request_of_advance {handling handling' : Handling}
    (advanced : handling.advance task world reply = some (world', handling')) :
    handling'.refresh? ≠ some (.request true) := by
  intro same
  cases handling with
  | start notice => cases reply <;> cases notice <;> cases advanced <;> cases same
  | compare id =>
    cases reply <;> cases advanced
    split at same <;> cases same
  | refreshing stage =>
    obtain ⟨stage', stepped, rfl⟩ := exists_of_map_eq_some advanced
    rw [refresh?_ofRefresh] at same
    exact Refresh.ne_request_of_advance stepped same
  | done _ => cases advanced

theorem Follow.ne_request_of_advance {follow follow' : Follow}
    (advanced : follow.advance task world reply = some (world', follow')) :
    follow'.refresh? ≠ some (.request true) := by
  intro same
  cases follow with
  | reading feed =>
    cases reply with
    | some _ => cases advanced
    | none =>
      rw [advance] at advanced
      split at advanced <;> cases advanced <;> cases same
  | handling feed stage =>
    obtain ⟨stage', stepped, rfl⟩ := exists_of_map_eq_some advanced
    rw [refresh?_ofHandling] at same
    exact Handling.ne_request_of_advance stepped same
  | refreshing feed stage =>
    obtain ⟨stage', stepped, rfl⟩ := exists_of_map_eq_some advanced
    rw [refresh?_ofRefresh] at same
    exact Refresh.ne_request_of_advance stepped same
  | _ => cases advanced

/-- Only a call wants rows dropped; reactions to notices do not. -/
theorem Activity.ne_request_of_advance {activity after : Activity}
    (advanced : activity.advance task world reply = some (world', after)) :
    after.refresh? ≠ some (.request true) := by
  intro same
  cases activity with
  | refresh _ =>
    obtain ⟨_, stepped, rfl⟩ := exists_of_map_eq_some advanced
    exact Refresh.ne_request_of_advance stepped same
  | handle _ =>
    obtain ⟨_, stepped, rfl⟩ := exists_of_map_eq_some advanced
    exact Handling.ne_request_of_advance stepped same
  | follow _ =>
    obtain ⟨_, stepped, rfl⟩ := exists_of_map_eq_some advanced
    exact Follow.ne_request_of_advance stepped same
  | edit _ | ask _ => cases reply <;> cases advanced; cases same
  | edited | told _ => cases advanced
  | _ =>
    obtain ⟨_, -, rfl⟩ := exists_of_map_eq_some advanced
    cases same

/-- A step of a refresh within an update is a step of the update. -/
theorem Refresh.exists_of_advance_updating {update : Update}
    (advanced : stage.advance task world reply = some (world', .updating runs update))
    (entered : update ≠ .enter) :
    ∃ before, stage = .updating runs before ∧
      before.advance task world reply = some (world', update) := by
  cases stage with
  | updating _ before =>
    obtain ⟨update', stepped, same⟩ := exists_of_map_eq_some advanced
    cases update' <;> cases same <;> exact ⟨before, rfl, stepped⟩
  | takePending _ =>
    generalize reached : Refresh.updating runs update = stage' at advanced
    cases Steps.of_advance advanced <;> cases reached
    exact absurd rfl entered
  | _ =>
    generalize reached : Refresh.updating runs update = stage' at advanced
    cases Steps.of_advance advanced <;> cases reached

/-- An update looks what is selected only if it has found the mark. -/
theorem Update.eq_of_advance_findCleared {update : Update}
    (advanced : update.advance task world reply = some (world', .findCleared)) :
    update = .begin ∧ world.display.wantsClear = true := by
  generalize reached : Update.findCleared = update' at advanced
  cases Steps.of_advance advanced with
  | look _ =>
    refine ⟨rfl, ?_⟩
    by_contra unmarked
    obtain ⟨-, goes⟩ := Prod.mk.inj (Option.some.inj advanced)
    rw [if_neg unmarked, ← reached] at goes
    cases goes
  | find on => obtain ⟨_, rfl⟩ | rfl := on <;> cases reached
  | @showLines _ shown => cases shown <;> cases reached
  | _ => cases reached

/-- An update drops rows only if it has looked what is selected. -/
theorem Update.eq_of_advance_clear {update : Update}
    (advanced : update.advance task world reply = some (world', .clear id)) :
    update = .findCleared := by
  generalize reached : Update.clear id = update' at advanced
  cases Steps.of_advance advanced with
  | look on => obtain rfl | rfl := on <;> cases reached
  | find _ => rfl
  | @showLines _ shown => cases shown <;> cases reached
  | _ => cases reached

end

/-- A refresh within an update was there before another task has moved, or its own task has taken a
step of the update. -/
theorem update_of_move {worker runs : Nat} {update : Update}
    (moved : session.move move = some next)
    (under : next.refreshOf? worker = some (.updating runs update)) (entered : update ≠ .enter) :
    session.refreshOf? worker = some (.updating runs update) ∧ worker ≠ session.mover move ∨
      worker = session.mover move ∧ ∃ reply before,
        session.refreshOf? worker = some (.updating runs before) ∧
        before.advance worker session.world reply = some (next.world, update) := by
  by_cases mover : worker = session.mover move
  · refine Or.inr ⟨mover, ?_⟩
    cases was : session.refreshOf? worker with
    | none =>
      -- A refresh that has just begun runs no update.
      have changes (same : next.refreshOf? worker = session.refreshOf? worker) : False := by
        cases under.symm.trans (same.trans was)
      cases RefreshShift.of_move moved with
      | rest _ same _ => exact (changes (same worker)).elim
      | @begin task clear _ _ mine others _ =>
        by_cases same : worker = task
        · subst same
          cases clear <;> cases under.symm.trans mine
        · exact (changes (others worker same)).elim
      | @step task _ _ _ _ there _ _ _ others _ =>
        refine (changes (others worker ?_)).elim
        rintro rfl
        cases was.symm.trans there
    | some stage =>
      obtain ⟨-, other⟩ | ⟨-, reply, stage', advanced, mine⟩ := refresh_of_move moved was
      · exact absurd mover other
      · obtain rfl := Refresh.eq_of_underWay? (mine.symm.trans under)
        obtain ⟨before, rfl, stepped⟩ := Refresh.exists_of_advance_updating advanced entered
        exact ⟨reply, before, rfl, stepped⟩
  · exact Or.inl ⟨(part?_of_other Activity.refresh? moved mover).symm.trans under, mover⟩

/-- In a run a call has sent a task on an errand, which has come so far. -/
def Sent (first : Session) (moves : List Move) (task : Nat) (errand : Errand) : Prop :=
  ∃ asked later, first.Called moves asked later ∧ asked.activities.length = task ∧
    asked.errand later = errand

theorem Sent.of_move {errand : Errand} (sent : first.Sent moves task errand)
    (played : first.play moves = some session) (move : Move) :
    first.Sent (moves ++ [move]) task (errand.after task session move) := by
  obtain ⟨asked, later, called, rfl, rfl⟩ := sent
  have since := called.play played
  obtain ⟨earlier, rfl, reached⟩ := called
  refine ⟨asked, later ++ [move], ⟨earlier, ?_, reached⟩, rfl, ?_⟩
  · rw [List.append_assoc, List.cons_append]
  · exact watch_concat _ _ since move

/-- Whatever makes refreshes drop rows was brought about by a call. -/
structure Traced (first : Session) (moves : List Move) (session : Session) : Prop where
  unsaid : ∀ task, session.refreshOf? task = some (.request true) → first.Sent moves task .unsaid
  said : session.marks.wantsClear = true → ∃ task, first.Sent moves task .said
  looking : ∀ worker runs, session.refreshOf? worker = some (.updating runs .findCleared) →
    ∃ task, first.Sent moves task (.looking worker)
  found : ∀ worker runs id, session.refreshOf? worker = some (.updating runs (.clear id)) →
    ∃ task, first.Sent moves task (.found worker (some id) [])

namespace Traced

theorem new (pageSize : Nat) (scope : Scope) :
    (new pageSize scope).Traced [] (new pageSize scope) where
  unsaid _ under := by cases under
  said wants := by cases wants
  looking _ _ under := by cases under
  found _ _ _ under := by cases under

variable (traced : first.Traced moves session) (played : first.play moves = some session)
  (moved : session.move move = some next)

include traced played moved

theorem unsaid_of_move (task : Nat) (under : next.refreshOf? task = some (.request true)) :
    first.Sent (moves ++ [move]) task .unsaid := by
  by_cases mover : task = session.mover move
  · obtain ⟨activity, held, requests⟩ := Option.bind_eq_some_iff.mp under
    subst mover
    cases Turn.of_move moved with
    | start call =>
      -- The call that begins is one that wants rows dropped.
      obtain rfl := Option.some.inj (held.symm.trans List.getElem?_concat_length)
      cases call with
      | refresh clear =>
        cases clear with
        | true => exact ⟨session, [], ⟨moves, rfl, played⟩, rfl, rfl⟩
        | false => cases requests
      | _ => cases requests
    | advance was stepped =>
      obtain ⟨inside, -⟩ := List.getElem?_eq_some_iff.mp was
      obtain rfl := Option.some.inj (held.symm.trans (List.getElem?_set_self inside))
      exact absurd requests (Activity.ne_request_of_advance stepped)
  · have before : session.refreshOf? task = some (.request true) :=
      (part?_of_other Activity.refresh? moved mover).symm.trans under
    have silent : .wanted task ∉ session.refreshEvents move := fun said =>
      mover (task_of_mem_refreshEvents said)
    have sent := (traced.unsaid task before).of_move played move
    rwa [Errand.after, if_neg silent] at sent

theorem said_of_move (wants : next.marks.wantsClear = true) :
    ∃ task, first.Sent (moves ++ [move]) task .said := by
  by_cases marked : session.marks.wantsClear = true
  · have uncleared : .cleared (session.mover move) ∉ session.refreshEvents move := by
      intro cleared
      obtain ⟨runs, under⟩ := exists_begin_of_cleared cleared
      obtain ⟨-, other⟩ | ⟨-, _, _, advanced, -⟩ := refresh_of_move moved under
      · exact absurd rfl other
      · have marks : next.marks = _ := (Refresh.Steps.of_advance advanced).marks
        rw [marks] at wants
        cases wants
    obtain ⟨task, sent⟩ := traced.said marked
    have sent := sent.of_move played move
    rw [Errand.after, if_neg uncleared] at sent
    exact ⟨task, sent⟩
  · cases RefreshShift.of_move moved with
    | rest marks _ _ => exact absurd (marks ▸ wants) marked
    | begin _ _ marks _ _ _ => exact absurd (marks ▸ wants) marked
    | @step task stage _ _ _ under _ marks _ _ events =>
      rw [marks, Refresh.wantsClear_marksAfter_iff] at wants
      obtain rfl | ⟨wants, -⟩ := wants
      · have sent := (traced.unsaid task under).of_move played move
        have event : session.refreshEvents move = [.wanted task] := events
        rw [Errand.after, if_pos (event ▸ List.mem_singleton_self _)] at sent
        exact ⟨task, sent⟩
      · exact absurd wants marked

theorem looking_of_move (worker runs : Nat)
    (under : next.refreshOf? worker = some (.updating runs .findCleared)) :
    ∃ task, first.Sent (moves ++ [move]) task (.looking worker) := by
  obtain ⟨before, other⟩ | ⟨rfl, reply, update, was, advanced⟩ :=
    update_of_move moved under nofun
  · obtain ⟨task, sent⟩ := traced.looking worker runs before
    refine ⟨task, ?_⟩
    have sent := sent.of_move played move
    rwa [Errand.after, if_neg (Ne.symm other)] at sent
  · obtain ⟨rfl, wants⟩ := Update.eq_of_advance_findCleared advanced
    have event : session.refreshEvents move = [.cleared (session.mover move)] :=
      (refreshEvents_of_under was).trans (if_pos wants)
    obtain ⟨task, sent⟩ := traced.said wants
    have sent := sent.of_move played move
    rw [Errand.after, if_pos (event ▸ List.mem_singleton_self _)] at sent
    exact ⟨task, sent⟩

theorem found_of_move (throttled : session.Throttled) (catalogued : session.Catalogued)
    (worker runs : Nat) (id : RepositoryId)
    (under : next.refreshOf? worker = some (.updating runs (.clear id))) :
    ∃ task, first.Sent (moves ++ [move]) task (.found worker (some id) []) := by
  obtain ⟨before, other⟩ | ⟨rfl, reply, update, was, advanced⟩ :=
    update_of_move moved under nofun
  · have silent : .ended worker ∉ session.refreshEvents move := fun ended =>
      other (task_of_mem_refreshEvents ended)
    obtain ⟨task, sent⟩ := traced.found worker runs id before
    have sent := sent.of_move played move
    rw [Errand.after, if_neg silent, throttled.sweep_of_other before rfl other] at sent
    exact ⟨task, sent⟩
  · obtain rfl := Update.eq_of_advance_clear advanced
    have selected : session.world.store.selected? = some id := by
      have goes := Update.advance_findCleared catalogued advanced
      cases found : session.world.store.selected? with
      | none =>
        rw [found] at goes
        cases goes
      | some other =>
        rw [found] at goes
        cases goes
        rfl
    obtain ⟨task, sent⟩ := traced.looking _ runs was
    have sent := sent.of_move played move
    rw [Errand.after, if_pos rfl, selected] at sent
    exact ⟨task, sent⟩

end Traced

/-- In every run refreshes drop rows on errands only. -/
theorem Traced.of_play (played : (Session.new pageSize scope).play moves = some session) :
    (Session.new pageSize scope).Traced moves session := by
  refine play_induction (fun moves session => (Session.new pageSize scope).Traced moves session)
    (.new pageSize scope) ?_ played
  intro moves middle move next before traced moved
  exact ⟨traced.unsaid_of_move before moved, traced.said_of_move before moved,
    traced.looking_of_move before moved,
    traced.found_of_move before moved (.of_play before) (.of_play before)⟩

/-! ### Calls that are obeyed -/

/-- Every call of a run that wants rows dropped is obeyed: the rows of the repository that was
selected at the call have been dropped since, and on the errand of the call no other rows have. -/
structure Obeyed (first : Session) (moves : List Move) (final : Session) : Prop where
  granted : ∀ asked later id, first.Called moves asked later →
    asked.world.store.selected? = some id →
    asked.world.store.generation id < final.world.store.generation id
  spared : ∀ asked later id, first.Called moves asked later → id ∈ (asked.errand later).swept →
    asked.world.store.selected? = some id

/-- Every errand of a run has found selected what was selected at the call, or it has found nothing
and somebody else has dropped the rows meanwhile. -/
def Abiding (first : Session) (moves : List Move) : Prop :=
  ∀ asked later, first.Called moves asked later →
    (asked.errand later).selected? = asked.world.store.selected? ∨
      (asked.errand later).selected? = none ∧ ∀ id, asked.world.store.selected? = some id →
        .dropped id ∈ (asked.start (.refresh true)).history later

/-- When the refreshes of a run rest, every errand has dropped the rows of the repository that was
selected when it came to look, and of no other one; and whatever rows a refresh has dropped, it was
on an errand. So the calls are obeyed exactly if the errands have found selected what was selected
at the calls, or nothing that was not dropped already. -/
theorem obeyed_iff_abiding (played : (new pageSize scope).play moves = some final)
    (resting : final.Resting) :
    (∀ asked later, (new pageSize scope).Called moves asked later →
      ∃ selected?, asked.errand later = .finished selected? selected?.toList) ∧
    (∀ before move after session id, moves = before ++ move :: after →
      (new pageSize scope).play before = some session → id ∈ session.sweep move →
      ∃ task, (new pageSize scope).Sent before task (.found (session.mover move) (some id) [])) ∧
    ((new pageSize scope).Obeyed moves final ↔ (new pageSize scope).Abiding moves) := by
  refine ⟨fun asked later called => errand_of_resting played resting called, ?_, ?_⟩
  · intro before move after session id _ reached swept
    obtain ⟨runs, under⟩ := exists_clear_of_mem_sweep swept
    exact (Traced.of_play reached).found _ runs id under
  constructor
  · intro obeyed asked later called
    -- Whatever an errand has found, it has dropped, so it is what was selected at the call.
    have swept := swept_of_resting played resting called
    cases found : (asked.errand later).selected? with
    | some id =>
      have mine : id ∈ (asked.errand later).swept := by
        rw [swept, found]
        exact List.mem_singleton_self id
      exact Or.inl (obeyed.spared asked later id called mine).symm
    | none =>
      -- Then nothing was dropped on the errand, and the rows were dropped all the same.
      refine Or.inr ⟨rfl, fun id selected => ?_⟩
      exact (generation_lt_iff (called.play played)).mp
        (obeyed.granted asked later id called selected)
  · intro abiding
    refine ⟨fun asked later id called selected => ?_, fun asked later id called mine => ?_⟩
    · obtain same | ⟨-, dropped⟩ := abiding asked later called
      · refine generation_lt_of_swept (called.play played) ?_
        rw [swept_of_resting played resting called, same, selected]
        exact List.mem_singleton_self id
      · exact (generation_lt_iff (called.play played)).mpr (dropped id selected)
    · rw [swept_of_resting played resting called, Option.mem_toList] at mine
      obtain same | ⟨nothing, -⟩ := abiding asked later called
      · exact same.symm.trans mine
      · cases nothing.symm.trans mine

/-- The repository that is selected has rows, and a request for more lines has its turn at the
tree. -/
def turnRun : List Move :=
  sampleRun ++ [.start (.edit (.add sampleRepository)), .advance 1 none,
    .start (.edit (.activate (some ⟨"r"⟩))), .advance 2 none, .start .moreLines] ++
    List.replicate 3 (.advance 3 none)

/-- A refresh that is to drop rows waits behind the request for more lines. -/
def queueing : List Move := List.replicate 5 (.advance 4 none)

/-- The request for more lines goes on to its end. -/
def appending : List Move :=
  List.replicate 6 (.advance 3 none) ++
    .advance 3 (some (.lineage (.ok (some sampleLineage)))) :: storing 3 (samplePage "2") ++
    List.replicate 7 (.advance 3 none)

/-- Then the refresh runs its update, which fetches a page. -/
def fetching : List Move :=
  List.replicate 10 (.advance 4 none) ++
    .advance 4 (some (.lineage (.ok (some sampleLineage)))) :: storing 4 (samplePage "1") ++
    List.replicate 6 (.advance 4 none)

/-- A refresh that is to drop rows is called, and the same repository stays selected. -/
def abidingRun : List Move :=
  turnRun ++ .start (.refresh true) :: (queueing ++ appending ++ fetching)

theorem obeyed_abidingRun :
    (new 1 .lineage).play abidingRun = some (sampleAfter abidingRun) ∧
      (sampleAfter abidingRun).Resting ∧
      (new 1 .lineage).Obeyed abidingRun (sampleAfter abidingRun) ∧
      (sampleAfter turnRun).errand (queueing ++ appending ++ fetching) =
        .finished (some ⟨"r"⟩) [⟨"r"⟩] := by
  have played : (new 1 .lineage).play abidingRun = some (sampleAfter abidingRun) := rfl
  have resting : (sampleAfter abidingRun).Resting := by
    intro task
    match task with
    | 0 | 1 | 2 | 3 | 4 => rfl
    | _ + 5 => rfl
  have done : (sampleAfter turnRun).errand (queueing ++ appending ++ fetching) =
      .finished (some ⟨"r"⟩) [⟨"r"⟩] := by rfl
  refine ⟨played, resting, (obeyed_iff_abiding played resting).2.2.mpr ?_, done⟩
  -- The run has one call of this kind.
  rintro asked later ⟨before, split, reached⟩
  have single := (List.append_cons_inj_of_notMem (by simp [turnRun, sampleRun, asking, storing])
    (by simp [queueing, appending, fetching, storing])).mp split
  obtain ⟨rfl, -, rfl⟩ := single
  obtain rfl := Option.some.inj (reached.symm.trans (show _ = some (sampleAfter turnRun) from rfl))
  exact Or.inl (congrArg Errand.selected? done)

/-- Another repository is selected while the refresh waits. -/
def switching : List Move :=
  [.start (.edit (.add { id := ⟨"s"⟩, root := "/s", source := none })), .advance 5 none,
    .start (.edit (.activate (some ⟨"s"⟩))), .advance 6 none]

/-- The refresh is called for one repository, and its update finds another one. -/
def strayingRun : List Move :=
  turnRun ++ .start (.refresh true) :: (queueing ++ switching ++ appending ++
    List.replicate 12 (.advance 4 none))

/-- A refresh can leave the rows that it was to drop and drop those of another repository. -/
theorem not_obeyed_strayingRun :
    ¬ ∀ (moves : List Move) (final : Session), (new 1 .lineage).play moves = some final →
      final.Resting → (new 1 .lineage).Obeyed moves final := by
  intro obeyed
  have resting : (sampleAfter strayingRun).Resting := by
    intro task
    match task with
    | 0 | 1 | 2 | 3 | 4 | 5 | 6 => rfl
    | _ + 7 => rfl
  have called : (new 1 .lineage).Called strayingRun (sampleAfter turnRun) (queueing ++ switching ++
      appending ++ List.replicate 12 (.advance 4 none)) := ⟨turnRun, rfl, rfl⟩
  have dropped := (obeyed strayingRun _ rfl resting).granted _ _ ⟨"r"⟩ called rfl
  exact absurd dropped (by decide)

end CommitHistory.Session
