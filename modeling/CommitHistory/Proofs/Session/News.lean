/-
# News on its way to the tree

When the choice is another, the news of it travels: a removal withholds it, a notice lies ahead
of the reader, the reader reacts to it, a refresh is pending, and at last an update is on its way
to look which repository is selected. Each of these stages leads to the next, and no move loses
the news before an update begins to show lines.

## Main definitions

* `Session.positionOf?`, `Session.ahead` — how far a reader has come, and what lies ahead of it.
* `Session.Due` — news of another choice is on its way.

## Main results

* `Session.ReaderShift.of_move` — what a move does to the position of a reader.
* `Session.Due.of_move` — news stays on its way until an activity begins to show lines.
-/

import CommitHistory.Proofs.Session.Choice
import CommitHistory.Proofs.Session.Showing
import CommitHistory.Proofs.Session.Throttle
import Mathlib.Data.List.Infix

namespace CommitHistory.Session

variable {task : Nat} {world world' : World} {reply : Option Reply}

/-! ### Readers -/

/-- The position of a reader of notices that are still published. -/
def Feed.position? : Feed → Option Nat
  | .live next => some next
  | .ended _ => none

/-- What a reader of notices reads from. -/
def Follow.feed? : Follow → Option Feed
  | .reading feed | .handling feed _ | .refreshing feed _ => some feed
  | .over => none

/-- The position of an activity among the notices that are published. -/
def Activity.position? : Activity → Option Nat
  | .follow stage => stage.feed?.bind Feed.position?
  | _ => none

@[simp] theorem Follow.feed?_ofHandling (feed : Feed) (stage : Handling) :
    (Follow.ofHandling feed stage).feed? = some feed := by
  cases stage <;> rfl

@[simp] theorem Follow.feed?_ofRefresh (feed : Feed) (stage : Refresh) :
    (Follow.ofRefresh feed stage).feed? = some feed := by
  cases stage <;> rfl

/-- What a reader gets. -/
inductive Feed.Receives (notices : List Notice) : Feed → Receipt → Prop
  | missed (position count : Nat) :
      Receives notices (.live position)
        (.delivered (.missed count) (.live (notices.length - Notice.capacity)))
  | next {position : Nat} {notice : Notice} (found : notices[position]? = some notice) :
      Receives notices (.live position) (.delivered (.notice notice) (.live (position + 1)))
  | nothingYet {position : Nat} (beyond : notices[position]? = none) :
      Receives notices (.live position) .nothingYet
  | rest (delivery : Delivery) (rest : List Delivery) :
      Receives notices (.ended (delivery :: rest)) (.delivered delivery (.ended rest))
  | close : Receives notices (.ended []) .over

theorem Feed.receives (notices : List Notice) (feed : Feed) :
    Feed.Receives notices feed (feed.receive notices) := by
  unfold Feed.receive
  split
  next position =>
    split
    next => exact .missed position _
    next =>
      split
      next beyond => exact .nothingYet beyond
      next found => exact .next found
  next => exact .close
  next => exact .rest _ _

/-- A step of an activity, seen from the notices that it has read: it reads none, it is told that it
missed some, or it reads the next one. -/
inductive Activity.Reads (notices : List Notice) (activity after : Activity) : Prop
  | stay (same : after.position? = activity.position?)
  | skip {position : Nat} (bound : position ≤ notices.length)
      (reads : activity.position?.isSome = true) (now : after.position? = some position)
      (refreshes : after.refresh? = some .trigger)
  | read {position : Nat} {notice : Notice} (here : activity.position? = some position)
      (found : notices[position]? = some notice)
      (now : after = .follow (.handling (.live (position + 1)) (.start notice)))

theorem Follow.reads_of_advance {stage next : Follow}
    (advanced : stage.advance task world reply = some (world', next)) :
    Activity.Reads world.notices (.follow stage) (.follow next) := by
  cases stage with
  | reading feed =>
    cases reply with
    | some _ => cases advanced
    | none =>
      have receives := Feed.receives world.notices feed
      rw [Follow.advance] at advanced
      split at advanced <;> cases advanced
      next closes =>
        rw [closes] at receives
        cases receives
        exact .stay rfl
      next missed =>
        rw [missed] at receives
        cases receives with
        | missed _ _ => exact .skip (Nat.sub_le _ _) rfl rfl rfl
        | rest _ _ => exact .stay rfl
      next delivered =>
        rw [delivered] at receives
        cases receives with
        | next found => exact .read rfl found rfl
        | rest _ _ => exact .stay rfl
  | handling feed _ =>
    obtain ⟨_, -, rfl⟩ := exists_of_map_eq_some advanced
    exact .stay (congrArg (Option.bind · Feed.position?) (feed?_ofHandling feed _))
  | refreshing feed _ =>
    obtain ⟨_, -, rfl⟩ := exists_of_map_eq_some advanced
    exact .stay (congrArg (Option.bind · Feed.position?) (feed?_ofRefresh feed _))
  | _ => cases advanced

theorem Activity.Reads.of_advance {activity after : Activity}
    (advanced : activity.advance task world reply = some (world', after)) :
    Activity.Reads world.notices activity after := by
  cases activity with
  | follow _ =>
    obtain ⟨_, stepped, rfl⟩ := exists_of_map_eq_some advanced
    exact Follow.reads_of_advance stepped
  | edit _ | ask _ => cases reply <;> cases advanced; exact .stay rfl
  | edited | told _ => cases advanced
  | _ =>
    obtain ⟨_, -, rfl⟩ := exists_of_map_eq_some advanced
    exact .stay rfl

/-! ### Positions -/

variable {session next : Session} {move : Move} {reader : Nat}

/-- How far the activity of a task has come in reading the notices that are published. -/
def positionOf? (session : Session) (reader : Nat) : Option Nat :=
  session.part? Activity.position? reader

/-- The notices that a reader has not read yet. -/
def ahead (session : Session) (reader : Nat) : List Notice :=
  session.world.notices.drop ((session.positionOf? reader).getD 0)

/-- A move, seen from a reader: it begins to read, reads nothing, is told that it missed some
notices, or reads the next one. -/
inductive ReaderShift (reader : Nat) (session next : Session) : Prop
  | begin (absent : session.activities[reader]? = none)
  | stay (same : next.positionOf? reader = session.positionOf? reader)
  | skip {position : Nat} (bound : position ≤ session.world.notices.length)
      (reads : (session.positionOf? reader).isSome = true)
      (now : next.positionOf? reader = some position)
      (refreshes : next.refreshOf? reader = some .trigger)
  | read {position : Nat} {notice : Notice} (here : session.positionOf? reader = some position)
      (found : session.world.notices[position]? = some notice)
      (now : next.activities[reader]? =
        some (.follow (.handling (.live (position + 1)) (.start notice))))

theorem ReaderShift.of_move (reader : Nat) (moved : session.move move = some next) :
    ReaderShift reader session next := by
  by_cases mover : reader = session.mover move
  · obtain ⟨call, same, absent, begun⟩ | ⟨reply, before, after, held, held', stepped⟩ :=
      activities_of_move moved
    · exact .begin (mover ▸ absent)
    · rw [← mover] at held held'
      have was : session.positionOf? reader = before.position? := part?_of_held held
      have goes : next.positionOf? reader = after.position? := part?_of_held held'
      cases Activity.Reads.of_advance stepped with
      | stay same => exact .stay (goes.trans (same.trans was.symm))
      | skip bound reads now refreshes =>
        exact .skip bound (was ▸ reads) (goes.trans now) ((part?_of_held held').trans refreshes)
      | read here found now => exact .read (was.trans here) found (now ▸ held')
  · exact .stay (part?_of_other _ moved mover)

/-- A reader goes on reading. -/
theorem positionOf?_isSome_of_move (reads : (session.positionOf? reader).isSome = true)
    (moved : session.move move = some next) : (next.positionOf? reader).isSome = true := by
  cases ReaderShift.of_move reader moved with
  | begin absent =>
    rw [positionOf?, part?_of_absent absent] at reads
    cases reads
  | stay same => rw [same, reads]
  | skip _ _ now _ => rw [now, Option.isSome_some]
  | read _ _ now =>
    rw [positionOf?, part?_of_held now]
    rfl

/-- A reader is nowhere beyond the notices. -/
def Hears (reader : Nat) (session : Session) : Prop :=
  ∀ position, session.positionOf? reader = some position → position ≤ session.world.notices.length

/-- Whoever begins to read begins at the first notice. -/
def Begins (reader : Nat) (session next : Session) : Prop :=
  session.activities[reader]? = none →
    ∀ position, next.positionOf? reader = some position → position = 0

/-- After a move a reader is nowhere beyond the notices that there were before. -/
theorem Hears.le_of_move (hears : session.Hears reader) (begins : Begins reader session next)
    (moved : session.move move = some next) {position : Nat}
    (here : next.positionOf? reader = some position) :
    position ≤ session.world.notices.length := by
  cases ReaderShift.of_move reader moved with
  | begin absent =>
    rw [begins absent position here]
    exact Nat.zero_le _
  | stay same => exact hears position (same.symm.trans here)
  | skip bound _ now _ => exact Option.some.inj (now.symm.trans here) ▸ bound
  | read _ found now =>
    have there : next.positionOf? reader = some _ := part?_of_held now
    obtain rfl := Option.some.inj (there.symm.trans here)
    exact (List.getElem?_eq_some_iff.mp found).1

theorem Hears.of_move (hears : session.Hears reader) (begins : Begins reader session next)
    (moved : session.move move = some next) : next.Hears reader := fun _ here =>
  Nat.le_trans (hears.le_of_move begins moved here) (notices_prefix_of_move moved).length_le

/-! ### News -/

/-- An update that has yet to look which repository is selected. -/
def Update.willSelect : Update → Bool
  | .enter | .waiting | .begin | .findCleared | .clear _ => true
  | _ => false

/-- A refresh that is to ask for an update, or whose update has yet to look. -/
def Refresh.willSelect : Refresh → Bool
  | .trigger => true
  | .updating _ update => update.willSelect
  | _ => false

/-- News of another choice is on its way: it is ahead of the reader, the reader is about to react to
it, a removal withholds it, a refresh is pending, or an update has yet to look. -/
inductive Due (reader : Nat) (session : Session) : Prop
  | ahead (news : HasNews (session.ahead reader))
  | heard {feed : Feed} {notice : Notice}
      (held : session.activities[reader]? = some (.follow (.handling feed (.start notice))))
      (news : notice.isNews = true)
  | withheld {task : Nat} {activity : Activity} (held : session.activities[task]? = some activity)
      (withholds : activity.withholds = true)
  | pending (set : session.marks.isPending = true)
  | willSelect (active : session.Active Refresh.willSelect)

theorem HasNews.mono {notices more : List Notice} (news : HasNews notices)
    (subset : notices ⊆ more) : HasNews more := by
  obtain ⟨notice, member, isNews⟩ := news
  exact ⟨notice, subset member, isNews⟩

/-- News that is published is ahead of the reader. -/
theorem Due.of_published (hears : session.Hears reader) (begins : Begins reader session next)
    (moved : session.move move = some next)
    (news : HasNews (next.world.notices.drop session.world.notices.length)) :
    next.Due reader := by
  have bound : (next.positionOf? reader).getD 0 ≤ session.world.notices.length := by
    cases here : next.positionOf? reader with
    | none => exact Nat.zero_le _
    | some position => exact hears.le_of_move begins moved here
  exact .ahead (news.mono (List.drop_sublist_drop_left _ bound).subset)

/-- News ahead of the reader stays there until the reader reads it or is told that it missed it. -/
theorem Due.of_ahead (begins : Begins reader session next) (moved : session.move move = some next)
    (news : HasNews (session.ahead reader)) : next.Due reader := by
  have stays (same : (next.positionOf? reader).getD 0 = (session.positionOf? reader).getD 0) :
      next.Due reader := by
    refine .ahead (news.mono ?_)
    rw [Session.ahead, Session.ahead, same]
    exact ((notices_prefix_of_move moved).drop _).subset
  cases ReaderShift.of_move reader moved with
  | begin absent =>
    have nowhere : session.positionOf? reader = none := part?_of_absent absent
    rw [nowhere] at stays
    refine stays ?_
    cases here : next.positionOf? reader with
    | none => rfl
    | some position => exact begins absent position here
  | stay same => exact stays (congrArg (Option.getD · 0) same)
  | skip _ _ _ refreshes =>
    -- The news may be among the notices that it missed, and so it refreshes whatever they were.
    exact .willSelect ⟨reader, _, refreshes, rfl⟩
  | @read position notice here found now =>
    obtain ⟨inside, rfl⟩ := List.getElem?_eq_some_iff.mp found
    obtain ⟨other, member, isNews⟩ := news
    rw [Session.ahead, here, Option.getD_some, List.drop_eq_getElem_cons inside] at member
    obtain rfl | later := List.mem_cons.mp member
    · exact .heard now isNews
    · refine .ahead ⟨other, ?_, isNews⟩
      have there : next.positionOf? reader = some (position + 1) := part?_of_held now
      rw [Session.ahead, there, Option.getD_some]
      exact ((notices_prefix_of_move moved).drop _).subset later

/-- Whoever is about to react to news begins a refresh. -/
theorem Activity.refresh?_of_news {feed : Feed} {notice : Notice} {after : Activity}
    (news : notice.isNews = true)
    (advanced : (Activity.follow (.handling feed (.start notice))).advance task world reply =
      some (world', after)) : after.refresh? = some .trigger := by
  cases reply <;> cases notice <;> cases news <;> cases advanced <;> rfl

/-- A removal publishes the news that it has withheld. -/
theorem Activity.publishes_of_withholds {activity after : Activity}
    (withholds : activity.withholds = true)
    (advanced : activity.advance task world reply = some (world', after)) :
    HasNews (world'.notices.drop world.notices.length) := by
  unfold Activity.withholds at withholds
  split at withholds
  next id notices =>
    cases reply <;> cases advanced
    obtain ⟨notice, member, news⟩ := List.any_eq_true.mp withholds
    refine ⟨notice, ?_, news⟩
    show notice ∈ (world.notices ++ .removed id :: notices).drop world.notices.length
    rw [List.drop_left]
    exact List.mem_cons_of_mem _ member
  next => cases withholds

/-- A pending refresh stays pending until an update begins. -/
theorem Due.of_pending (moved : session.move move = some next)
    (pending : session.marks.isPending = true) : next.Due reader := by
  cases RefreshShift.of_move moved with
  | rest marks _ _ => exact .pending (marks ▸ pending)
  | begin _ _ marks _ _ _ => exact .pending (marks ▸ pending)
  | @step task stage _ _ _ _ steps marks mine _ _ =>
    by_cases takes : ∃ runs, stage = .takePending runs
    · -- Whoever takes the mark away has an update begin.
      obtain ⟨runs, rfl⟩ := takes
      cases steps with
      | begin _ => exact .willSelect ⟨task, _, mine, rfl⟩
      | finish idle => exact absurd (pending.symm.trans idle) nofun
    · refine .pending ?_
      rw [marks, Refresh.isPending_marksAfter_iff]
      exact Or.inr ⟨pending, fun runs here => takes ⟨runs, here⟩⟩

/-- An update that has yet to look goes on its way, and at last it begins to show lines. -/
theorem Due.of_willSelect (moved : session.move move = some next)
    (active : session.Active Refresh.willSelect) :
    next.Due reader ∨ ∃ task, next.showingOf? task = some .start := by
  obtain ⟨task, stage, under, will⟩ := active
  obtain stayed | ⟨reply, world', stage', steps, marks, mine, -⟩ :=
    (RefreshShift.of_move moved).of_under under
  · exact Or.inl (.willSelect ⟨task, stage, stayed, will⟩)
  · have onward (will : stage'.willSelect = true) (under : stage'.underWay? = some stage') :
        next.Due reader ∨ ∃ task, next.showingOf? task = some .start :=
      Or.inl (.willSelect ⟨task, stage', mine.trans under, will⟩)
    have shows (under : stage'.underWay? = some stage') (showing : stage'.showing? = some .start) :
        next.Due reader ∨ ∃ task, next.showingOf? task = some .start :=
      Or.inr ⟨task, (showingOf?_of_refreshOf? (mine.trans under)).trans showing⟩
    cases steps with
    | trigger => exact Or.inl (.pending (marks ▸ rfl))
    | look on =>
      obtain rfl | rfl := on
      · exact onward rfl rfl
      · exact shows rfl rfl
    | work steps =>
      cases steps with
      | enter | queue | pass => exact onward rfl rfl
      | find on =>
        obtain ⟨id, rfl⟩ | rfl := on
        · exact onward rfl rfl
        · exact shows rfl rfl
      | clear id => exact shows rfl rfl
      | look _ => contradiction
      | _ => cases will
    | _ => cases will

/-- News stays on its way until an activity begins to show lines. -/
theorem Due.of_move (due : session.Due reader) (hears : session.Hears reader)
    (begins : Begins reader session next) (moved : session.move move = some next) :
    next.Due reader ∨ ∃ task, next.showingOf? task = some .start := by
  cases due with
  | ahead news => exact Or.inl (.of_ahead begins moved news)
  | heard held news =>
    refine Or.inl ?_
    by_cases mover : reader = session.mover move
    · subst mover
      obtain ⟨call, -, absent, -⟩ | ⟨reply, before, after, was, goes, stepped⟩ :=
        activities_of_move moved
      · cases absent.symm.trans held
      · obtain rfl := Option.some.inj (was.symm.trans held)
        have refreshes := Activity.refresh?_of_news news stepped
        exact .willSelect ⟨_, _, (part?_of_held goes).trans refreshes, rfl⟩
    · exact .heard ((activities_of_other moved mover).trans held) news
  | @withheld task activity held withholds =>
    refine Or.inl ?_
    by_cases mover : task = session.mover move
    · subst mover
      obtain ⟨call, -, absent, -⟩ | ⟨reply, before, after, was, -, stepped⟩ :=
        activities_of_move moved
      · cases absent.symm.trans held
      · obtain rfl := Option.some.inj (was.symm.trans held)
        exact .of_published hears begins moved (Activity.publishes_of_withholds withholds stepped)
    · exact .withheld ((activities_of_other moved mover).trans held) withholds
  | pending set => exact Or.inl (.of_pending moved set)
  | willSelect active => exact Due.of_willSelect moved active

end CommitHistory.Session
