/-
# Who carries out refreshes

At any time one refresh at most carries out updates, and the mark that says so is set just
then. A request that is pending will be seen: by the refresh that carries out updates, or by
one that is about to look. So when no refresh is under way nothing is pending, and no rows
are still to be dropped.

## Main definitions

* `Session.Active`, `Session.Resting` — where the refreshes stand that are under way.
* `Session.Throttled` — what the marks say about them.

## Main results

* `Session.Throttled.of_play` — the marks say so in every run.
* `Session.Throttled.marks_of_resting` — without a refresh no mark is set.
-/

import CommitHistory.Proofs.Session.Refresh

namespace CommitHistory.Session

/-! ### Stages -/

namespace Refresh

/-- From its start to its stop a refresh carries out updates, also for others. -/
def holds : Refresh → Bool
  | .takePending _ | .updating _ _ | .stop _ => true
  | _ => false

/-- A refresh that is still to look whether a request is pending. -/
def hears : Refresh → Bool
  | .tryStart _ | .takePending _ | .updating _ _ | .stop _ | .lookAgain _ => true
  | _ => false

/-- A refresh that is to ask for an update, or whose update is still to look whether it drops the
rows. -/
def minds : Refresh → Bool
  | .trigger | .updating _ .enter | .updating _ .waiting | .updating _ .begin => true
  | _ => false

theorem hears_of_holds {stage : Refresh} (holds : stage.holds = true) : stage.hears = true := by
  cases stage <;> first | rfl | cases holds

end Refresh

variable {session next : Session} {move : Move} {moves : List Move} {pageSize : Nat} {scope : Scope}

/-- Some refresh that is under way stands at one of the stages. -/
def Active (stages : Refresh → Bool) (session : Session) : Prop :=
  ∃ task stage, session.refreshOf? task = some stage ∧ stages stage = true

/-- No refresh is under way. -/
def Resting (session : Session) : Prop := ∀ task, session.refreshOf? task = none

theorem Resting.not_active (resting : session.Resting) (stages : Refresh → Bool) :
    ¬ session.Active stages := by
  rintro ⟨task, stage, under, -⟩
  rw [resting task] at under
  cases under

/-- A move of one refresh leaves the others where they are. -/
theorem Active.of_others {stages : Refresh → Bool} {mover : Nat} (active : session.Active stages)
    (others : ∀ other, other ≠ mover → next.refreshOf? other = session.refreshOf? other)
    (mine : ∀ stage, session.refreshOf? mover = some stage → stages stage = true →
      next.Active stages) : next.Active stages := by
  obtain ⟨task, stage, under, here⟩ := active
  by_cases same : task = mover
  · exact mine stage (same ▸ under) here
  · exact ⟨task, stage, (others task same).trans under, here⟩

theorem Active.of_same {stages : Refresh → Bool} (active : session.Active stages)
    (refreshes : ∀ task, next.refreshOf? task = session.refreshOf? task) :
    next.Active stages := by
  obtain ⟨task, stage, under, here⟩ := active
  exact ⟨task, stage, (refreshes task).trans under, here⟩

/-! ### What the marks say -/

/-- What the marks say about the refreshes that are under way. -/
structure Throttled (session : Session) : Prop where
  locked : ∀ task stage, session.refreshOf? task = some stage → stage.holds = true →
    session.marks.isRefreshing = true
  exclusive : ∀ first second stage stage', session.refreshOf? first = some stage →
    session.refreshOf? second = some stage' → stage.holds = true → stage'.holds = true →
    first = second
  holder : session.marks.isRefreshing = true → session.Active Refresh.holds
  heard : session.marks.isPending = true → session.Active Refresh.hears
  wanted : session.marks.wantsClear = true →
    session.marks.isPending = true ∨ session.Active Refresh.minds

namespace Throttled

/-- A refresh that carries out updates after a move did so before, or it has just found that nobody
else does. -/
theorem holds_of_shift (shift : RefreshShift session move next) {task : Nat} {stage : Refresh}
    (under : next.refreshOf? task = some stage) (holds : stage.holds = true) :
    (∃ before, session.refreshOf? task = some before ∧ before.holds = true) ∨
      session.marks.isRefreshing = false ∧ next.marks.isRefreshing = true ∧
        ∀ other, other ≠ task → next.refreshOf? other = session.refreshOf? other := by
  cases shift with
  | rest marks refreshes _ => exact Or.inl ⟨stage, (refreshes task).symm.trans under, holds⟩
  | @begin mover clear idle marks mine others _ =>
    by_cases same : task = mover
    · subst same
      obtain rfl := Option.some.inj (mine.symm.trans under)
      cases clear <;> cases holds
    · exact Or.inl ⟨stage, (others task same).symm.trans under, holds⟩
  | @step mover before after _ _ was steps marks mine others _ =>
    by_cases same : task = mover
    · subst same
      obtain rfl := Refresh.eq_of_underWay? (mine.symm.trans under)
      cases steps with
      | start free =>
        refine Or.inr ⟨free, ?_, others⟩
        rw [marks, Refresh.isRefreshing_marksAfter_iff]
        exact Or.inl ⟨_, rfl⟩
      | begin | finish | look | work | leave => exact Or.inl ⟨_, was, rfl⟩
      | _ => cases holds
    · exact Or.inl ⟨stage, (others task same).symm.trans under, holds⟩

theorem locked_of_shift (throttled : session.Throttled) (shift : RefreshShift session move next)
    (task : Nat) (stage : Refresh) (under : next.refreshOf? task = some stage)
    (holds : stage.holds = true) : next.marks.isRefreshing = true := by
  obtain ⟨before, was, held⟩ | ⟨-, set, -⟩ := holds_of_shift shift under holds
  · have set := throttled.locked task before was held
    cases shift with
    | rest marks _ _ => rw [marks, set]
    | begin _ _ marks _ _ _ => rw [marks, set]
    | @step mover other after _ _ here steps marks mine _ _ =>
      rw [marks, Refresh.isRefreshing_marksAfter_iff]
      refine Or.inr ⟨set, ?_⟩
      -- Only the refresh that carries out updates takes the mark away, and then it does so no more.
      rintro runs rfl
      obtain rfl := throttled.exclusive task mover before _ was here held rfl
      cases steps
      cases mine.symm.trans under
      cases holds
  · exact set

theorem exclusive_of_shift (throttled : session.Throttled) (shift : RefreshShift session move next)
    (first second : Nat) (stage stage' : Refresh) (one : next.refreshOf? first = some stage)
    (two : next.refreshOf? second = some stage') (holds : stage.holds = true)
    (holds' : stage'.holds = true) : first = second := by
  by_contra different
  obtain ⟨before, was, held⟩ | ⟨free, -, others⟩ := holds_of_shift shift one holds
  · obtain ⟨before', was', held'⟩ | ⟨free, -, others⟩ := holds_of_shift shift two holds'
    · exact different (throttled.exclusive first second _ _ was was' held held')
    · have set := throttled.locked first before was held
      rw [free] at set
      cases set
  · have set := throttled.locked second stage' ((others second (Ne.symm different)).symm.trans two)
      holds'
    rw [free] at set
    cases set

theorem holder_of_shift (throttled : session.Throttled) (shift : RefreshShift session move next)
    (set : next.marks.isRefreshing = true) : next.Active Refresh.holds := by
  cases shift with
  | rest marks refreshes _ => exact (throttled.holder (marks ▸ set)).of_same refreshes
  | begin clear idle marks mine others _ =>
    refine (throttled.holder (marks ▸ set)).of_others others fun stage was _ => ?_
    rw [idle] at was
    cases was
  | @step mover before after _ _ was steps marks mine others _ =>
    rw [marks, Refresh.isRefreshing_marksAfter_iff] at set
    obtain ⟨runs, rfl⟩ | ⟨set, other⟩ := set
    · cases steps with
      | turnAway busy =>
        refine (throttled.holder busy).of_others others fun stage here holds => ?_
        cases was.symm.trans here
        cases holds
      | start _ => exact ⟨mover, _, mine, rfl⟩
    · refine (throttled.holder set).of_others others fun stage here holds => ?_
      obtain rfl := Option.some.inj (was.symm.trans here)
      cases steps with
      | begin | finish | look | work | leave => exact ⟨mover, _, mine, rfl⟩
      | stop => exact absurd rfl (other _)
      | _ => cases holds

theorem heard_of_shift (throttled : session.Throttled) (shift : RefreshShift session move next)
    (pending : next.marks.isPending = true) : next.Active Refresh.hears := by
  cases shift with
  | rest marks refreshes _ => exact (throttled.heard (marks ▸ pending)).of_same refreshes
  | begin clear idle marks mine others _ =>
    refine (throttled.heard (marks ▸ pending)).of_others others fun stage was _ => ?_
    rw [idle] at was
    cases was
  | @step mover before after _ _ was steps marks mine others _ =>
    rw [marks, Refresh.isPending_marksAfter_iff] at pending
    obtain rfl | ⟨pending, other⟩ := pending
    · cases steps
      exact ⟨mover, _, mine, rfl⟩
    · refine (throttled.heard pending).of_others others fun stage here hears => ?_
      obtain rfl := Option.some.inj (was.symm.trans here)
      cases steps with
      | start | look | work | leave | stop | again => exact ⟨mover, _, mine, rfl⟩
      | begin | finish => exact absurd rfl (other _)
      | turnAway busy =>
        -- Whoever turned it away will look before it stops.
        obtain ⟨task, stage, under, holds⟩ := throttled.holder busy
        refine ⟨task, stage, (others task ?_).trans under, Refresh.hears_of_holds holds⟩
        rintro rfl
        cases was.symm.trans under
        cases holds
      | rest idle =>
        rw [show session.marks.isPending = false from idle] at pending
        cases pending
      | _ => cases hears

theorem wanted_of_shift (throttled : session.Throttled) (shift : RefreshShift session move next)
    (wanted : next.marks.wantsClear = true) :
    next.marks.isPending = true ∨ next.Active Refresh.minds := by
  cases shift with
  | rest marks refreshes _ =>
    rw [marks] at wanted ⊢
    exact (throttled.wanted wanted).imp_right fun active => active.of_same refreshes
  | begin clear idle marks mine others _ =>
    rw [marks] at wanted ⊢
    refine (throttled.wanted wanted).imp_right fun active => ?_
    refine active.of_others others fun stage was _ => ?_
    rw [idle] at was
    cases was
  | @step mover before after _ _ was steps marks mine others _ =>
    rw [marks, Refresh.wantsClear_marksAfter_iff] at wanted
    rw [marks, Refresh.isPending_marksAfter_iff]
    obtain rfl | ⟨wanted, other⟩ := wanted
    · cases steps
      exact Or.inr ⟨mover, _, mine, rfl⟩
    · obtain pending | active := throttled.wanted wanted
      · by_cases takes : ∃ runs, before = .takePending runs
        · obtain ⟨runs, rfl⟩ := takes
          cases steps with
          | begin _ => exact Or.inr ⟨mover, _, mine, rfl⟩
          | finish idle =>
            rw [show session.marks.isPending = false from idle] at pending
            cases pending
        · exact Or.inl (Or.inr ⟨pending, fun runs here => takes ⟨runs, here⟩⟩)
      · by_cases asks : before = .trigger
        · exact Or.inl (Or.inl asks)
        · refine Or.inr (active.of_others others fun stage here minds => ?_)
          obtain rfl := Option.some.inj (was.symm.trans here)
          cases steps with
          | trigger => exact absurd rfl asks
          | look => exact absurd rfl (other _)
          | work steps =>
            cases steps with
            | look => exact absurd rfl (other _)
            | enter | queue | pass => exact ⟨mover, _, mine, rfl⟩
            | _ => cases minds
          | _ => cases minds

/-- Every move keeps what the marks say. -/
theorem of_move (throttled : session.Throttled) (moved : session.move move = some next) :
    next.Throttled where
  locked := throttled.locked_of_shift (.of_move moved)
  exclusive := throttled.exclusive_of_shift (.of_move moved)
  holder := throttled.holder_of_shift (.of_move moved)
  heard := throttled.heard_of_shift (.of_move moved)
  wanted := throttled.wanted_of_shift (.of_move moved)

/-- In a new session no mark is set and no refresh is under way. -/
theorem new (pageSize : Nat) (scope : Scope) : (Session.new pageSize scope).Throttled where
  locked _ _ under := by cases under
  exclusive _ _ _ _ under := by cases under
  holder set := by cases set
  heard set := by cases set
  wanted set := by cases set

/-- In every run the marks say what they should. -/
theorem of_play (played : (Session.new pageSize scope).play moves = some session) :
    session.Throttled :=
  play_induction (fun _ session => session.Throttled) (new pageSize scope)
    (fun _ _ _ _ _ throttled moved => throttled.of_move moved) played

/-- When no refresh is under way nothing is pending, and no rows are to be dropped. -/
theorem marks_of_resting (throttled : session.Throttled) (resting : session.Resting) :
    session.marks.isPending = false ∧ session.marks.wantsClear = false := by
  have idle : session.marks.isPending = false :=
    eq_false_of_ne_true fun pending => resting.not_active _ (throttled.heard pending)
  refine ⟨idle, eq_false_of_ne_true fun wanted => ?_⟩
  obtain pending | active := throttled.wanted wanted
  · rw [idle] at pending
    cases pending
  · exact resting.not_active _ active

end Throttled

end CommitHistory.Session
