/-
# How updates follow each other

What is put down about the refreshes of a run tells the story of its updates without the
session. An update begins only if one was requested since the last one began, and only when
that one is over. So the requests that come during an update are answered by one update
together, and one more is run only if one more was requested.

## Main definitions

* `Duty`, `Duty.after` — what is known of the updates, and what an event changes about it.
* `Session.OnDuty` — what was put down agrees with the session.

## Main results

* `Duty.exists_of_began_began` — what lies between two updates.
* `Duty.exists_of_requested` — requests during an update bring about one more.
* `Session.OnDuty.of_play` — all that is put down agrees with the session.
-/

import CommitHistory.Proofs.Session.Throttle

namespace CommitHistory.Session

/-- Whether an update begins. -/
def RefreshEvent.isBegan : RefreshEvent → Bool
  | .began _ => true
  | _ => false

/-- What is known of the updates: whether one was requested since the last one began, and which task
runs one. -/
structure Duty where
  isAsked : Bool
  worker? : Option Nat
deriving DecidableEq, Repr

namespace Duty

/-- No update was requested, and none is run. -/
def none : Duty := ⟨false, .none⟩

/-- What is known after an event, if the event is possible. -/
def after (duty : Duty) : RefreshEvent → Option Duty
  | .requested _ => some { duty with isAsked := true }
  | .began task =>
    if duty.isAsked = true ∧ duty.worker? = .none then some ⟨false, some task⟩ else .none
  | .ended task =>
    if duty.worker? = some task then some { duty with worker? := .none } else .none
  | _ => some duty

/-- What is known after events, if each is possible when its time comes. -/
def afterAll (duty : Duty) (events : List RefreshEvent) : Option Duty := events.foldlM after duty

variable {duty final : Duty} {task : Nat} {event : RefreshEvent}
  {history earlier during between later : List RefreshEvent}

theorem afterAll_append (duty : Duty) (first second : List RefreshEvent) :
    duty.afterAll (first ++ second) = (duty.afterAll first).bind fun middle =>
      middle.afterAll second :=
  List.foldlM_append

theorem exists_of_afterAll_append (known : duty.afterAll (earlier ++ later) = some final) :
    ∃ middle, duty.afterAll earlier = some middle ∧ middle.afterAll later = some final :=
  Option.bind_eq_some_iff.mp (afterAll_append duty earlier later ▸ known)

theorem exists_of_afterAll_cons (known : duty.afterAll (event :: later) = some final) :
    ∃ middle, duty.after event = some middle ∧ middle.afterAll later = some final :=
  Option.bind_eq_some_iff.mp known

theorem of_after_began {next : Duty} (known : duty.after (.began task) = some next) :
    duty.isAsked = true ∧ duty.worker? = .none ∧ next = ⟨false, some task⟩ := by
  rw [after] at known
  split at known
  next possible => exact ⟨possible.1, possible.2, (Option.some.inj known).symm⟩
  next => cases known

theorem of_after_ended {next : Duty} (known : duty.after (.ended task) = some next) :
    duty.worker? = some task ∧ next = { duty with worker? := .none } := by
  rw [after] at known
  split at known
  next possible => exact ⟨possible, (Option.some.inj known).symm⟩
  next => cases known

/-- As long as an update is run no other begins, and whatever is requested stays so. -/
theorem of_worker (runs : duty.worker? = some task) (known : duty.afterAll during = some final)
    (lasts : .ended task ∉ during) :
    final.worker? = some task ∧
      (duty.isAsked = true ∨ (∃ asker, .requested asker ∈ during) → final.isAsked = true) := by
  induction during generalizing duty with
  | nil =>
    obtain rfl := Option.some.inj known
    exact ⟨runs, fun asked => asked.elim id fun ⟨_, member⟩ => nomatch member⟩
  | cons event rest ih =>
    obtain ⟨middle, changed, known⟩ := exists_of_afterAll_cons known
    rw [List.mem_cons, not_or] at lasts
    have goesOn (runs' : middle.worker? = some task)
        (asked : duty.isAsked = true ∨ (∃ asker, event = .requested asker) →
          middle.isAsked = true) :
        final.worker? = some task ∧
          (duty.isAsked = true ∨ (∃ asker, .requested asker ∈ event :: rest) →
            final.isAsked = true) := by
      obtain ⟨still, kept⟩ := ih runs' known lasts.2
      refine ⟨still, fun before => kept ?_⟩
      obtain before | ⟨asker, member⟩ := before
      · exact Or.inl (asked (Or.inl before))
      · obtain here | member := List.mem_cons.mp member
        · exact Or.inl (asked (Or.inr ⟨asker, here.symm⟩))
        · exact Or.inr ⟨asker, member⟩
    cases event with
    | requested asker =>
      cases changed
      exact goesOn runs fun _ => rfl
    | began other =>
      have free := (of_after_began changed).2.1
      rw [runs] at free
      cases free
    | ended other =>
      have same := (of_after_ended changed).1
      rw [runs] at same
      obtain rfl := Option.some.inj same
      exact absurd rfl lasts.1
    | _ =>
      cases changed
      exact goesOn runs fun asked => asked.elim id fun ⟨_, other⟩ => nomatch other

/-- Without another request at most one update begins: the one that was requested before. -/
theorem countP_began (known : duty.afterAll later = some final)
    (silent : ∀ asker, .requested asker ∉ later) :
    later.countP RefreshEvent.isBegan + final.isAsked.toNat = duty.isAsked.toNat := by
  induction later generalizing duty with
  | nil =>
    obtain rfl := Option.some.inj known
    simp
  | cons event rest ih =>
    obtain ⟨middle, changed, known⟩ := exists_of_afterAll_cons known
    have silent' (asker : Nat) : .requested asker ∉ rest := fun member =>
      silent asker (List.mem_cons_of_mem event member)
    have counted := ih known silent'
    cases event with
    | requested asker => exact absurd List.mem_cons_self (silent asker)
    | began task =>
      obtain ⟨asked, -, rfl⟩ := of_after_began changed
      rw [List.countP_cons_of_pos rfl, asked]
      simp only [Bool.toNat_false, Nat.add_eq_zero_iff] at counted
      rw [counted.1, counted.2]
      rfl
    | ended task =>
      obtain ⟨-, rfl⟩ := of_after_ended changed
      rwa [List.countP_cons_of_neg (by simp [RefreshEvent.isBegan])]
    | _ =>
      cases changed
      rwa [List.countP_cons_of_neg (by simp [RefreshEvent.isBegan])]

/-- Between the beginnings of two updates the first one ends, and the second one is requested. -/
theorem exists_of_began_began {second : Nat}
    (known : Duty.none.afterAll (earlier ++ .began task :: between ++ .began second :: later) =
      some final) : .ended task ∈ between ∧ ∃ asker, .requested asker ∈ between := by
  rw [List.append_assoc, List.cons_append] at known
  obtain ⟨start, -, known⟩ := exists_of_afterAll_append known
  obtain ⟨first, began, known⟩ := exists_of_afterAll_cons known
  obtain ⟨-, -, rfl⟩ := of_after_began began
  obtain ⟨middle, lain, known⟩ := exists_of_afterAll_append known
  obtain ⟨_, began, -⟩ := exists_of_afterAll_cons known
  obtain ⟨asked, free, -⟩ := of_after_began began
  constructor
  · by_contra lasts
    have busy := (of_worker rfl lain lasts).1
    rw [free] at busy
    cases busy
  · by_contra silent
    have counted := countP_began lain fun asker member => silent ⟨asker, member⟩
    rw [asked] at counted
    simp at counted

/-- An update that was requested and is pending no more has begun. -/
theorem exists_began_of_asked (asked : duty.isAsked = true)
    (known : duty.afterAll later = some final) (idle : final.isAsked = false) :
    ∃ before worker after, later = before ++ .began worker :: after ∧
      ∀ other, .began other ∉ before := by
  induction later generalizing duty with
  | nil =>
    obtain rfl := Option.some.inj known
    rw [asked] at idle
    cases idle
  | cons event rest ih =>
    obtain ⟨middle, changed, known⟩ := exists_of_afterAll_cons known
    have goesOn (asked' : middle.isAsked = true) (other : ∀ worker, event ≠ .began worker) :
        ∃ before worker after, event :: rest = before ++ .began worker :: after ∧
          ∀ other, .began other ∉ before := by
      obtain ⟨before, worker, after, rfl, first⟩ := ih asked' known
      refine ⟨event :: before, worker, after, rfl, fun someone member => ?_⟩
      obtain here | member := List.mem_cons.mp member
      · exact other someone here.symm
      · exact first someone member
    cases event with
    | began worker => exact ⟨[], worker, rest, rfl, fun _ => List.not_mem_nil⟩
    | requested _ => cases changed; exact goesOn rfl nofun
    | ended _ =>
      obtain ⟨-, rfl⟩ := of_after_ended changed
      exact goesOn asked nofun
    | _ => cases changed; exact goesOn asked nofun

/-- The updates that are requested while one is run are answered by one update together: one begins
later, and another one only if it is requested after that. -/
theorem exists_of_requested {asker : Nat}
    (known : Duty.none.afterAll (earlier ++ .began task :: during ++ .ended task :: later) =
      some final)
    (idle : final.isAsked = false) (lasts : .ended task ∉ during)
    (requested : .requested asker ∈ during) :
    (∃ before worker after, later = before ++ .began worker :: after ∧
      (∀ other, .began other ∉ before) ∧
      ∀ first other second, after = first ++ .began other :: second →
        ∃ asker, .requested asker ∈ first) ∧
    ((∀ asker, .requested asker ∉ later) → later.countP RefreshEvent.isBegan = 1) := by
  have whole := known
  rw [List.append_assoc, List.cons_append] at known
  obtain ⟨start, -, known⟩ := exists_of_afterAll_append known
  obtain ⟨first, began, known⟩ := exists_of_afterAll_cons known
  obtain ⟨-, -, rfl⟩ := of_after_began began
  obtain ⟨middle, lain, known⟩ := exists_of_afterAll_append known
  obtain ⟨settled, ended, known⟩ := exists_of_afterAll_cons known
  obtain ⟨-, same⟩ := of_after_ended ended
  have asked : settled.isAsked = true := by
    rw [same]
    exact (of_worker rfl lain lasts).2 (Or.inr ⟨asker, requested⟩)
  constructor
  · obtain ⟨before, worker, after, rfl, first⟩ := exists_began_of_asked asked known idle
    refine ⟨before, worker, after, rfl, first, fun between other second split => ?_⟩
    subst split
    have order : earlier ++ .began task :: during ++
          .ended task :: (before ++ .began worker :: (between ++ .began other :: second)) =
        (earlier ++ .began task :: during ++ .ended task :: before) ++ .began worker :: between ++
          .began other :: second := by simp
    exact (exists_of_began_began (order ▸ whole)).2
  · intro silent
    have counted := countP_began known silent
    rwa [idle, asked] at counted

end Duty

/-! ### Updates of a session -/

/-- Whether a refresh runs an update. -/
def Refresh.updates : Refresh → Bool
  | .updating _ _ => true
  | _ => false

/-- Whether the refresh of a task runs an update. -/
def updatesBy (session : Session) (task : Nat) : Bool :=
  (session.refreshOf? task).any Refresh.updates

variable {session next : Session} {move : Move} {moves : List Move} {pageSize : Nat} {scope : Scope}
  {history : List RefreshEvent}

theorem updatesBy_iff {task : Nat} :
    session.updatesBy task = true ↔
      ∃ stage, session.refreshOf? task = some stage ∧ stage.updates = true := by
  rw [updatesBy, Option.any_eq_true]

theorem Refresh.holds_of_updates {stage : Refresh} (updates : stage.updates = true) :
    stage.holds = true := by
  cases stage <;> first | rfl | cases updates

theorem any_updates_underWay? (stage : Refresh) :
    stage.underWay?.any Refresh.updates = stage.updates := by
  cases stage <;> rfl

/-- Only a request and the two ends of an update change what is known of the updates. -/
theorem Refresh.afterAll_events {stage : Refresh} {marks : Marks} (task : Nat)
    (asks : stage ≠ .trigger) (ends : ∀ runs, stage ≠ .updating runs .leave)
    (begins : marks.isPending = true → ∀ runs, stage ≠ .takePending runs) (duty : Duty) :
    duty.afterAll (stage.events task marks) = some duty := by
  unfold events
  split
  next => split <;> rfl
  next => exact absurd rfl asks
  next => split <;> rfl
  next runs =>
    split
    next pending => exact absurd rfl (begins pending runs)
    next => rfl
  next => split <;> rfl
  next runs => exact absurd rfl (ends runs)
  next => split <;> rfl
  next => rfl

/-- What was put down agrees with the session on what is pending and on who runs an update. -/
def OnDuty (history : List RefreshEvent) (session : Session) : Prop :=
  ∃ duty, Duty.none.afterAll history = some duty ∧ duty.isAsked = session.marks.isPending ∧
    ∀ task, duty.worker? = some task ↔ session.updatesBy task = true

namespace OnDuty

/-- A step by which no update begins or ends, and none is requested. -/
theorem of_silent (onDuty : OnDuty history session) {events : List RefreshEvent}
    (silent : ∀ duty : Duty, duty.afterAll events = some duty)
    (pending : next.marks.isPending = session.marks.isPending)
    (updates : ∀ task, next.updatesBy task = session.updatesBy task) :
    OnDuty (history ++ events) next := by
  obtain ⟨duty, known, asked, worker⟩ := onDuty
  refine ⟨duty, ?_, asked.trans pending.symm, fun task => ?_⟩
  · rw [Duty.afterAll_append, known, Option.bind_some, silent]
  · rw [updates, worker]

theorem of_move (onDuty : OnDuty history session) (throttled : session.Throttled)
    (moved : session.move move = some next) :
    OnDuty (history ++ session.refreshEvents move) next := by
  cases RefreshShift.of_move moved with
  | rest marks refreshes events =>
    rw [events]
    refine onDuty.of_silent (fun _ => rfl) (congrArg Marks.isPending marks) fun task => ?_
    rw [updatesBy, refreshes, updatesBy]
  | @begin mover clear idle marks mine others events =>
    rw [events]
    refine onDuty.of_silent (fun _ => rfl) (congrArg Marks.isPending marks) fun task => ?_
    by_cases same : task = mover
    · rw [same, updatesBy, updatesBy, mine, idle]
      cases clear <;> rfl
    · rw [updatesBy, others task same, updatesBy]
  | @step mover stage stage' _ _ under steps marks mine others events =>
    have updates (task : Nat) : next.updatesBy task =
        if task = mover then stage'.updates else session.updatesBy task := by
      split
      next same => rw [same, updatesBy, mine, any_updates_underWay?]
      next other => rw [updatesBy, others task other, updatesBy]
    have before : session.updatesBy mover = stage.updates := by
      rw [updatesBy, under, Option.any_some]
    have still (same : stage'.updates = stage.updates) (task : Nat) :
        next.updatesBy task = session.updatesBy task := by
      rw [updates]
      split
      next mover => rw [mover, before, same]
      next => rfl
    have pending := congrArg Marks.isPending marks
    rw [events]
    -- All steps but three are silent.
    cases steps with
    | trigger =>
      obtain ⟨duty, known, -, worker⟩ := onDuty
      refine ⟨{ duty with isAsked := true }, ?_, pending.symm, fun task => ?_⟩
      · rw [Duty.afterAll_append, known]
        rfl
      · rw [still rfl, worker]
    | begin set =>
      obtain ⟨duty, known, asked, worker⟩ := onDuty
      have set : session.marks.isPending = true := set
      have free : duty.worker? = none := by
        by_contra busy
        obtain ⟨other, runs⟩ := Option.ne_none_iff_exists'.mp busy
        obtain ⟨stage, here, runs⟩ := updatesBy_iff.mp ((worker other).mp runs)
        obtain rfl := throttled.exclusive other mover stage _ here under
          (Refresh.holds_of_updates runs) rfl
        cases here.symm.trans under
        cases runs
      refine ⟨⟨false, some mover⟩, ?_, pending.symm, fun task => ?_⟩
      · rw [Duty.afterAll_append, known, Refresh.events, if_pos set, Option.bind_some]
        simp [Duty.afterAll, Duty.after, asked, set, free]
      · rw [updates]
        split
        next same => simp [same, Refresh.updates]
        next other =>
          have idle : ¬ session.updatesBy task = true := by
            rw [← worker, free]
            exact nofun
          simp [idle, Ne.symm other]
    | leave =>
      obtain ⟨duty, known, asked, worker⟩ := onDuty
      have runs : duty.worker? = some mover := (worker mover).mpr before
      refine ⟨{ duty with worker? := none }, ?_, asked.trans pending.symm, fun task => ?_⟩
      · rw [Duty.afterAll_append, known, Option.bind_some]
        simp [Duty.afterAll, Refresh.events, Duty.after, runs]
      · rw [updates]
        split
        next => simp [Refresh.updates]
        next other =>
          have idle : ¬ session.updatesBy task = true := by
            rw [← worker, runs, Option.some.injEq]
            exact Ne.symm other
          simp [idle]
    | finish idle =>
      have idle : session.marks.isPending = false := idle
      refine onDuty.of_silent (Refresh.afterAll_events mover nofun nofun ?_) ?_ (still rfl)
      · rw [idle]
        exact nofun
      · exact pending.trans idle.symm
    | @work _ update _ _ _ steps _ goes =>
      have notLeave : update ≠ .leave := by
        rintro rfl
        cases steps
        exact goes rfl
      refine onDuty.of_silent (Refresh.afterAll_events mover nofun ?_ nofun) ?_ (still rfl)
      · rintro runs here
        cases here
        exact notLeave rfl
      · rw [pending]
        cases update <;> rfl
    | _ =>
      exact onDuty.of_silent (Refresh.afterAll_events mover nofun nofun nofun) pending (still rfl)

theorem new (pageSize : Nat) (scope : Scope) : OnDuty [] (Session.new pageSize scope) :=
  ⟨.none, rfl, rfl, fun _ => ⟨nofun, nofun⟩⟩

/-- In every run what was put down agrees with the session. -/
theorem of_play (played : (Session.new pageSize scope).play moves = some session) :
    OnDuty ((Session.new pageSize scope).refreshHistory moves) session := by
  refine play_induction
    (fun moves session => OnDuty ((Session.new pageSize scope).refreshHistory moves) session)
    (new pageSize scope) (fun moves middle move next before onDuty moved => ?_) played
  rw [refreshHistory, trace_concat before]
  exact onDuty.of_move (.of_play before) moved

end OnDuty

end CommitHistory.Session
