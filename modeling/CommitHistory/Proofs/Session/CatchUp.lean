/-
# The tree catches up

A session in which a reader reads all notices, from the first one on, keeps the tree up with
the store. At any time the tree is on course, or news of another choice is on its way, and when
nothing is under way any more there is no news left. Then the lines show the selected
repository, and all pages behind them were asked for in the scope that histories have.

## Main definitions

* `Session.Tracked` — the tree is on course, or news is on its way to it.
* `Session.Quiet` — nothing is under way, and all notices were read.

## Main results

* `Session.exists_tracked_of_play` — in every run with a reader the tree is tracked.
* `Session.tree_catches_up` — when the session is quiet the lines show what is chosen.
-/

import CommitHistory.Proofs.Session.Current
import CommitHistory.Proofs.Session.News

namespace CommitHistory.Session

variable {session next : Session} {move : Move} {moves before after : List Move}
  {pageSize : Nat} {scope : Scope} {reader : Nat}

/-! ### Runs -/

/-- The tree is on course after a run, or news of another choice is on its way to it. -/
structure Tracked (pageSize : Nat) (scope : Scope) (reader : Nat) (moves : List Move)
    (session : Session) : Prop where
  hears : session.Hears reader
  tracked : session.Due reader ∨
    OnCourse ((new pageSize scope).history moves) (World.clampPageSize pageSize) session

namespace Tracked

theorem of_move (tracked : Tracked pageSize scope reader moves session)
    (played : (new pageSize scope).play moves = some session)
    (begins : Begins reader session next) (moved : session.move move = some next) :
    Tracked pageSize scope reader (moves ++ [move]) next := by
  refine ⟨tracked.hears.of_move begins moved, ?_⟩
  have exclusive : next.Exclusive := .of_play (play_concat_of_move played moved)
  obtain due | onCourse := tracked.tracked
  · obtain due | ⟨task, starting⟩ := due.of_move tracked.hears begins moved
    · exact Or.inl due
    · -- Whatever was going wrong before, from here on the tree is on course.
      exact Or.inr (.of_start exclusive starting)
  · obtain (⟨selected, same⟩ | news) | ⟨activity, held, withholds⟩ := announced_of_move moved
    · have accounted (id : RepositoryId) := (Accounted.new id pageSize scope).of_play played
      rw [history_concat played]
      exact Or.inr (onCourse.of_move accounted (.of_play played) moved selected same _)
    · exact Or.inl (.of_published tracked.hears begins moved news)
    · exact Or.inl (.withheld held withholds)

/-- Before a reader begins, the tree is tracked for it. -/
theorem of_absent (played : (new pageSize scope).play moves = some session)
    (absent : session.activities[reader]? = none) :
    Tracked pageSize scope reader moves session := by
  refine play_induction (fun moves session => session.activities[reader]? = none →
    Tracked pageSize scope reader moves session) (fun _ => ?_)
    (fun moves middle move next before tracked moved absent => ?_) played absent
  · have none {α : Type} (view : Activity → Option α) (task : Nat) :
        (new pageSize scope).part? view task = none := part?_of_absent rfl
    refine ⟨fun position here => ?_, Or.inr ⟨fun task stage showing => ?_, Or.inl (Or.inl rfl)⟩⟩
    · cases (none Activity.position? reader).symm.trans here
    · cases (none Activity.showing? task).symm.trans showing
  · -- The reader is not there after the move either, so it has not begun anywhere.
    refine (tracked (absent_of_move moved absent)).of_move before (fun _ position here => ?_) moved
    rw [positionOf?, part?_of_absent absent] at here
    cases here

/-- While a reader reads, the tree stays tracked for it. -/
theorem of_reads {middle : Session} (tracked : Tracked pageSize scope reader before middle)
    (reads : (middle.positionOf? reader).isSome = true)
    (reached : (new pageSize scope).play before = some middle)
    (played : middle.play after = some session) :
    Tracked pageSize scope reader (before ++ after) session ∧
      (session.positionOf? reader).isSome = true := by
  refine play_induction (fun after session =>
    Tracked pageSize scope reader (before ++ after) session ∧
      (session.positionOf? reader).isSome = true) ⟨by rwa [List.append_nil], reads⟩
    (fun after middle' move next onward kept moved => ?_) played
  obtain ⟨tracked, reads⟩ := kept
  refine ⟨?_, positionOf?_isSome_of_move reads moved⟩
  rw [← List.append_assoc]
  refine tracked.of_move ((play_append_of_play reached after).trans onward) (fun absent => ?_) moved
  rw [positionOf?, part?_of_absent absent] at reads
  cases reads

end Tracked

/-- In every run with a reader that reads all notices the tree is tracked. -/
theorem exists_tracked_of_play
    (played : (new pageSize scope).play (before ++ .start (.follow (.live 0)) :: after) =
      some session) :
    ∃ reader,
      Tracked pageSize scope reader (before ++ .start (.follow (.live 0)) :: after) session ∧
        (session.positionOf? reader).isSome = true := by
  rw [List.append_cons, play_append] at played
  obtain ⟨next, started, onward⟩ := Option.bind_eq_some_iff.mp played
  obtain ⟨middle, reached, moved⟩ := exists_of_play_concat started
  have absent : middle.activities[middle.activities.length]? = none :=
    List.getElem?_eq_none Nat.le.refl
  have begun : next.activities[middle.activities.length]? =
      some (Call.follow (.live 0)).begin := by
    obtain rfl := Option.some.inj moved
    exact List.getElem?_concat_length
  have first : next.positionOf? middle.activities.length = some 0 := part?_of_held begun
  have tracked := (Tracked.of_absent reached absent).of_move reached
    (fun _ position here => (Option.some.inj (first.symm.trans here)).symm) moved
  refine ⟨middle.activities.length, ?_⟩
  rw [List.append_cons]
  exact tracked.of_reads (first ▸ rfl) started onward

/-! ### Quiet sessions -/

/-- Nothing is under way, and whoever reads notices has read them all. -/
def Quiet (session : Session) : Prop :=
  ∀ activity ∈ session.activities, activity.result?.isSome = true ∨
    ∃ feed, activity = .follow (.reading feed) ∧
      feed.receive session.world.notices = .nothingYet

namespace Quiet

theorem of_held (quiet : session.Quiet) {task : Nat} {activity : Activity}
    (held : session.activities[task]? = some activity) :
    activity.result?.isSome = true ∨ ∃ feed, activity = .follow (.reading feed) ∧
      feed.receive session.world.notices = .nothingYet :=
  quiet activity (List.mem_of_getElem? held)

/-- What is read off activities only while they are under way is nowhere to be read. -/
theorem part?_eq_none {α : Type} {view : Activity → Option α} (quiet : session.Quiet)
    (ended : ∀ activity, activity.result?.isSome = true → view activity = none)
    (reading : ∀ feed, view (.follow (.reading feed)) = none) (task : Nat) :
    session.part? view task = none := by
  cases held : session.activities[task]? with
  | none => exact part?_of_absent held
  | some activity =>
    rw [part?_of_held held]
    obtain done | ⟨feed, rfl, -⟩ := quiet.of_held held
    · exact ended activity done
    · exact reading feed

theorem resting (quiet : session.Quiet) : session.Resting := by
  refine quiet.part?_eq_none (fun activity ended => ?_) fun _ => rfl
  unfold Activity.result? at ended
  split at ended <;> first | rfl | cases ended

theorem showingOf?_eq_none (quiet : session.Quiet) (task : Nat) :
    session.showingOf? task = none := by
  refine quiet.part?_eq_none (fun activity ended => ?_) (fun _ => rfl) task
  unfold Activity.result? at ended
  split at ended <;> first | rfl | cases ended

/-- A reader has read all notices. -/
theorem ahead_eq_nil (quiet : session.Quiet) (reads : (session.positionOf? reader).isSome = true) :
    session.ahead reader = [] := by
  obtain ⟨position, here⟩ := Option.isSome_iff_exists.mp reads
  obtain ⟨activity, held, there⟩ := Option.bind_eq_some_iff.mp here
  obtain ended | ⟨feed, rfl, nothing⟩ := quiet.of_held held
  · unfold Activity.result? at ended
    split at ended <;> first | cases there | cases ended
  · have receives := Feed.receives session.world.notices feed
    rw [nothing] at receives
    cases receives with
    | nothingYet beyond =>
      obtain rfl := Option.some.inj there
      rw [ahead, here, Option.getD_some, List.drop_eq_nil_iff]
      exact List.getElem?_eq_none_iff.mp beyond

/-- When nothing is under way no news is. -/
theorem not_due (quiet : session.Quiet) (throttled : session.Throttled)
    (reads : (session.positionOf? reader).isSome = true) : ¬ session.Due reader := by
  intro due
  cases due with
  | ahead news =>
    obtain ⟨_, member, -⟩ := news
    rw [quiet.ahead_eq_nil reads] at member
    cases member
  | heard held _ => obtain ended | ⟨_, ⟨⟩, -⟩ := quiet.of_held held; cases ended
  | withheld held withholds =>
    unfold Activity.withholds at withholds
    split at withholds
    next => obtain ended | ⟨_, ⟨⟩, -⟩ := quiet.of_held held; cases ended
    next => cases withholds
  | pending set => exact absurd (set.symm.trans (throttled.marks_of_resting quiet.resting).1) nofun
  | willSelect active => exact quiet.resting.not_active _ active

end Quiet

/-- In every run with a reader that reads all notices, whenever the session is quiet there are no
lines, or they show the repository that is selected then, and all pages behind them were asked for
in the scope that histories have then. -/
theorem tree_catches_up
    (played : (new pageSize scope).play (before ++ .start (.follow (.live 0)) :: after) =
      some session) (quiet : session.Quiet) :
    session.world.display.lines = [] ∨
      ∃ repository lineage pages,
        session.world.store.selectedRepository? = some repository ∧
        (∀ line ∈ session.world.display.lines, line.repository = repository.id) ∧
        session.world.display.lines = TreeLine.ofRows repository.id
          (Graph.ofPages lineage session.world.store.scope pages).rows ∧
        Fetched ((new pageSize scope).history (before ++ .start (.follow (.live 0)) :: after))
          repository.id (World.clampPageSize pageSize) lineage session.world.store.scope pages := by
  obtain ⟨reader, ⟨-, tracked⟩, reads⟩ := exists_tracked_of_play played
  obtain due | ⟨-, current | ⟨task, stage, showing, -⟩⟩ := tracked
  · exact absurd due (quiet.not_due (.of_play played) reads)
  · obtain none | ⟨id, rows, selected, laid, none | ⟨lineage, graph, grounded, rfl⟩⟩ := current
    · exact Or.inl none
    · exact Or.inl (by rw [laid, none]; rfl)
    · obtain ⟨repository, found, rfl⟩ := (Catalogued.of_play played).exists_of_selected? selected
      obtain ⟨pages, -, rfl, fetched⟩ := grounded
      refine Or.inr ⟨repository, lineage, pages, found, ?_, laid, fetched⟩
      rw [laid]
      exact fun _ => TreeLine.repository_of_mem_ofRows
  · cases (quiet.showingOf?_eq_none task).symm.trans showing

/-- A repository is added and made the active one. -/
def activation : List Move :=
  [.start (.edit (.add sampleRepository)), .advance 0 none,
    .start (.edit (.activate (some sampleRepository.id))), .advance 1 none]

/-- A reader finds that another repository is selected and refreshes the tree. The update fetches a
page, and the reader finds that it was stored. -/
def followed : List Move :=
  (List.replicate 15 none ++ [some (Reply.lineage (.ok (some sampleLineage)))]).map (.advance 2) ++
    storing 2 (samplePage "1") ++ List.replicate 8 (.advance 2 none)

/-- The tree is told which repository is selected, and shows it. -/
def followedRun : List Move := activation ++ .start (.follow (.live 0)) :: followed

theorem tree_catches_up_followedRun :
    ∃ session, (new 1 .lineage).play followedRun = some session ∧ session.Quiet ∧
      session.world.display.lines.length = 1 ∧
      (session.world.display.lines = [] ∨
        ∃ repository lineage pages,
          session.world.store.selectedRepository? = some repository ∧
          (∀ line ∈ session.world.display.lines, line.repository = repository.id) ∧
          session.world.display.lines = TreeLine.ofRows repository.id
            (Graph.ofPages lineage session.world.store.scope pages).rows ∧
          Fetched ((new 1 .lineage).history followedRun) repository.id 1 lineage
            session.world.store.scope pages) := by
  have played : (new 1 .lineage).play (activation ++ .start (.follow (.live 0)) :: followed) =
      some (sampleAfter followedRun) := rfl
  have activities : (sampleAfter followedRun).activities =
      [.edited, .edited, .follow (.reading (.live 3))] := rfl
  have quiet : (sampleAfter followedRun).Quiet := by
    intro activity member
    rw [activities] at member
    simp only [List.mem_cons, List.not_mem_nil, or_false] at member
    obtain rfl | rfl | rfl := member
    · exact Or.inl rfl
    · exact Or.inl rfl
    · exact Or.inr ⟨.live 3, rfl, rfl⟩
  exact ⟨_, played, quiet, rfl, tree_catches_up played quiet⟩

end CommitHistory.Session
