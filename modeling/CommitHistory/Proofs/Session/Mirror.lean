/-
# Subscribers that mirror the choice

A subscriber that knows which repositories are tracked, which one is selected and which scope
histories have, and applies every notice to what it knows, knows it again after every call. Only
the removal of a repository takes two steps, and speaks in the second, so the calls that choose
have to come one after the other; whatever else happens between their steps, the mirror is not
disturbed. A selection is published exactly when it is another one.

## Main definitions

* `Mirror`, `Mirror.follow` — what a subscriber knows, and what it makes of notices.
* `Mirror.Leads` — notices that lead from one state of knowledge to another and repeat no
  selection.
* `Session.OneByOne` — runs in which the calls that choose come one after the other.

## Main results

* `Session.mirrored_of_play` — a subscriber knows the choice whenever no removal is half done.
-/

import CommitHistory.Proofs.Session.Choice
import CommitHistory.Proofs.Session.Publication
import CommitHistory.Proofs.Session.SingleFlight
import Mathlib.Data.List.Chain
import Mathlib.Logic.Function.Basic

namespace CommitHistory.Session

theorem Store.choice_setScope (store : Store) (scope : Scope) :
    (store.setScope scope).chosen = store.chosen ∧
      (store.setScope scope).active = store.active := by
  have dropped (ids : List RepositoryId) (store : Store) :
      (ids.foldl invalidate store).chosen = store.chosen ∧
        (ids.foldl invalidate store).active = store.active := by
    induction ids generalizing store with
    | nil => exact ⟨rfl, rfl⟩
    | cons id rest ih => exact ih (store.invalidate id)
  exact dropped _ { store with scope }

/-- What a subscriber knows. -/
structure Mirror where
  tracked : RepositoryId → Bool
  scope : Scope
  selected : Option RepositoryId

/-- The selection that a notice speaks of. -/
def Notice.selection? : Notice → Option (Option RepositoryId)
  | .selected id => some id
  | _ => none

/-- The selections that notices speak of, in their order. -/
def selections (notices : List Notice) : List (Option RepositoryId) :=
  notices.filterMap Notice.selection?

namespace Mirror

/-- What there is to know about a store. -/
def ofStore (store : Store) : Mirror :=
  { tracked := store.isTracked, scope := store.scope, selected := store.selected? }

/-- What a notice makes known. -/
def hear (mirror : Mirror) : Notice → Mirror
  | .added id => { mirror with tracked := Function.update mirror.tracked id true }
  | .removed id => { mirror with tracked := Function.update mirror.tracked id false }
  | .selected id => { mirror with selected := id }
  | .scope scope => { mirror with scope }
  | .cleared _ | .loaded _ _ _ => mirror

/-- What is known after notices. -/
def follow (mirror : Mirror) (notices : List Notice) : Mirror := notices.foldl hear mirror

variable {mirror before middle after : Mirror} {notices more quiet : List Notice}

theorem follow_append (mirror : Mirror) (notices more : List Notice) :
    mirror.follow (notices ++ more) = (mirror.follow notices).follow more :=
  List.foldl_append

theorem follow_of_isOfRows (mirror : Mirror) (rows : ∀ notice ∈ quiet, notice.isOfRows = true) :
    mirror.follow quiet = mirror := by
  induction quiet with
  | nil => rfl
  | cons notice rest ih =>
    have later := ih fun notice member => rows notice (List.mem_cons_of_mem _ member)
    have silent : mirror.hear notice = mirror := by
      have row := rows notice List.mem_cons_self
      cases notice <;> first | rfl | cases row
    exact (congrArg (follow · rest) silent).trans later

theorem selections_of_isOfRows (rows : ∀ notice ∈ quiet, notice.isOfRows = true) :
    selections quiet = [] := by
  refine List.filterMap_eq_nil_iff.mpr fun notice member => ?_
  have row := rows notice member
  cases notice <;> first | rfl | cases row

/-- The last selection that is published is known. -/
theorem getLast?_selections (mirror : Mirror) (notices : List Notice) :
    (mirror.selected :: selections notices).getLast? = some (mirror.follow notices).selected := by
  induction notices generalizing mirror with
  | nil => rfl
  | cons notice rest ih =>
    have later := ih (mirror.hear notice)
    cases notice with
    | selected id =>
      exact List.getLast?_cons_cons.trans later
    | _ => exact later

/-- Notices lead from one state of knowledge to another, and each selection among them is another
one than before. -/
structure Leads (before : Mirror) (notices : List Notice) (after : Mirror) : Prop where
  follows : before.follow notices = after
  fresh : List.IsChain (· ≠ ·) (before.selected :: selections notices)

namespace Leads

theorem refl (mirror : Mirror) : mirror.Leads [] mirror := ⟨rfl, List.isChain_singleton _⟩

theorem trans (first : before.Leads notices middle) (second : middle.Leads more after) :
    before.Leads (notices ++ more) after := by
  constructor
  · rw [follow_append, first.follows, second.follows]
  · rw [selections, List.filterMap_append, ← List.cons_append]
    refine List.isChain_append.mpr ⟨first.fresh, (List.isChain_cons.mp second.fresh).2, ?_⟩
    intro last ends next begins
    have known := getLast?_selections before notices
    rw [first.follows] at known
    obtain rfl : middle.selected = last := Option.some.inj (known.symm.trans ends)
    exact (List.isChain_cons.mp second.fresh).1 next begins

theorem of_isOfRows (mirror : Mirror) (rows : ∀ notice ∈ quiet, notice.isOfRows = true) :
    mirror.Leads quiet mirror := by
  refine ⟨follow_of_isOfRows mirror rows, ?_⟩
  rw [selections_of_isOfRows rows]
  exact List.isChain_singleton _

/-- Notices about rows may come in between. -/
theorem insert (leads : before.Leads (notices ++ more) after)
    (rows : ∀ notice ∈ quiet, notice.isOfRows = true) :
    before.Leads ((notices ++ quiet) ++ more) after := by
  constructor
  · rw [follow_append, follow_append, follow_of_isOfRows _ rows, ← follow_append, leads.follows]
  · have fresh := leads.fresh
    rw [selections, List.filterMap_append] at fresh
    have none := selections_of_isOfRows rows
    rw [selections, List.filterMap_append, List.filterMap_append, ← selections, ← selections,
      none, List.append_nil]
    exact fresh

end Leads

/-! ### What edits and removals make known -/

/-- Whoever knows all but the selection is told the selection if it is another one. -/
theorem leads_selectionNotices {store after : Store}
    (known : (ofStore store).follow notices = { ofStore after with selected := store.selected? })
    (plain : selections notices = []) :
    (ofStore store).Leads (notices ++ World.selectionNotices store after) (ofStore after) := by
  rw [World.selectionNotices]
  by_cases same : store.selected? = after.selected?
  · rw [if_pos same, List.append_nil]
    refine ⟨?_, ?_⟩
    · rw [known, same]
      rfl
    · rw [plain]
      exact List.isChain_singleton _
  · rw [if_neg same]
    refine ⟨?_, ?_⟩
    · rw [follow_append, known]
      rfl
    · rw [selections, List.filterMap_append, ← selections, plain]
      exact List.isChain_pair.mpr same

theorem isTracked_add (store : Store) (repository : Repository) :
    (store.add repository).isTracked = Function.update store.isTracked repository.id true := by
  funext id
  rw [Function.update_apply]
  simp only [Store.isTracked, Store.add, Table.contains, Table.get?_put]
  split <;> rfl

theorem isTracked_remove (store : Store) (id : RepositoryId) :
    (store.remove id).isTracked = Function.update store.isTracked id false := by
  funext other
  rw [Function.update_apply]
  simp only [Store.isTracked, Store.remove, Store.invalidate, Table.contains, Table.get?_erase]
  split <;> rfl

theorem ofStore_eq {store after : Store} (repositories : after.repositories = store.repositories)
    (chosen : after.chosen = store.chosen) (active : after.active = store.active) :
    ofStore after = { ofStore store with scope := after.scope } := by
  have tracked : after.isTracked = store.isTracked := by
    funext id
    rw [Store.isTracked, repositories, Store.isTracked]
  rw [ofStore, Store.selected?, tracked, chosen, active]
  rfl

theorem ofStore_setScope (store : Store) (scope : Scope) :
    ofStore (store.setScope scope) = { ofStore store with scope } := by
  obtain ⟨chosen, active⟩ := store.choice_setScope scope
  have same := ofStore_eq (store.repositories_setScope scope) chosen active
  rw [same, Store.setScope, Store.scope_foldl_invalidate]

/-- What an edit publishes makes known what it has changed. -/
theorem leads_edit (world : World) (change : Edit) :
    (ofStore world.store).Leads (change.published world.store)
      (ofStore (change.apply world).store) := by
  cases change with
  | add repository =>
    have known : (ofStore world.store).follow [.added repository.id] =
        { ofStore (world.store.add repository) with selected := world.store.selected? } := by
      simp only [ofStore, isTracked_add]
      rfl
    exact leads_selectionNotices known rfl
  | choose id =>
    have known : (ofStore world.store).follow [] =
        { ofStore { world.store with chosen := id } with selected := world.store.selected? } := rfl
    exact leads_selectionNotices known rfl
  | activate id =>
    have known : (ofStore world.store).follow [] =
        { ofStore { world.store with active := id } with selected := world.store.selected? } := rfl
    exact leads_selectionNotices known rfl
  | setScope scope =>
    rw [Edit.published, Edit.apply]
    split
    · exact .refl _
    · refine ⟨(ofStore_setScope world.store scope).symm, List.isChain_singleton _⟩
  | setWantsMore id wantsMore =>
    have calm : Calm world ((Edit.setWantsMore id wantsMore).apply world) := .of_alter world id _
    have same := ofStore_eq calm.repositories calm.chosen calm.active
    rw [same, calm.scope]
    exact .refl _
  | clear id => exact ⟨rfl, List.isChain_singleton _⟩

/-- What a removal publishes at its end makes known what it has changed. -/
theorem leads_remove (store : Store) (id : RepositoryId) :
    (ofStore store).Leads (.removed id :: World.selectionNotices store (store.remove id))
      (ofStore (store.remove id)) := by
  have known : (ofStore store).follow [.removed id] =
      { ofStore (store.remove id) with selected := store.selected? } := by
    simp only [ofStore, isTracked_remove]
    rfl
  exact leads_selectionNotices known rfl

end Mirror

/-! ### Steps -/

/-- Whether a deed changes which repositories are tracked, which of them is selected or which scope
histories have. -/
def Deed.chooses : Deed → Bool
  | .remove _ | .edit (.add _) | .edit (.choose _) | .edit (.activate _) | .edit (.setScope _) =>
    true
  | _ => false

/-- What a removal that is half done has still to publish. -/
def Activity.withheld : Activity → List Notice
  | .remove (.forgetGate id notices) => .removed id :: notices
  | _ => []

section
variable {task : Nat} {world world' : World} {reply : Option Reply} {activity after : Activity}

theorem Activity.exists_start_of_withheld
    (advanced : activity.advance task world reply = some (world', after))
    (withholds : after.withheld ≠ []) : ∃ id, activity = .remove (.start id) := by
  have removes : ∃ id, after.removes? = some id := by
    cases after with
    | remove stage => cases stage <;> first | exact ⟨_, rfl⟩ | exact absurd rfl withholds
    | _ => exact absurd rfl withholds
  obtain ⟨id, removes⟩ := removes
  have removed := Activity.removes?_of_advance advanced removes
  cases activity with
  | remove stage =>
    cases stage with
    | start id => exact ⟨id, rfl⟩
    | forgetGate id notices =>
      cases reply <;> cases advanced
      exact absurd rfl withholds
    | done => cases removed
  | _ => cases removed

/-- A step that at most marks or drops rows leaves alone what there is to know. -/
theorem Activity.ofStore_of_advance
    (advanced : activity.advance task world reply = some (world', after))
    (rows : (activity.deed world).isOfRows = true) :
    Mirror.ofStore world'.store = Mirror.ofStore world.store := by
  cases Chooses.of_advance advanced with
  | calm calm =>
    rw [Mirror.ofStore_eq calm.repositories calm.chosen calm.active, calm.scope]
    rfl
  | edit change =>
    have leads := Mirror.leads_edit world change
    have told : ∀ notice ∈ change.published world.store, notice.isOfRows = true :=
      fun _ => Deed.isOfRows_of_published rows
    exact leads.follows.symm.trans (Mirror.follow_of_isOfRows _ told)
  | remove id => cases rows

/-- A step makes known what it has changed, now or in the second step of a removal. -/
theorem Activity.leads_of_advance
    (advanced : activity.advance task world reply = some (world', after))
    (nothing : activity.withheld = []) :
    (Mirror.ofStore world.store).Leads (activity.published world ++ after.withheld)
      (Mirror.ofStore world'.store) := by
  rcases Activity.isOfRows_deed world activity with ⟨change, rfl⟩ | ⟨stage, rfl⟩ | rows
  · cases reply <;> cases advanced
    rw [withheld, List.append_nil]
    · exact Mirror.leads_edit world change
    · exact nofun
  · cases stage with
    | start id =>
      cases reply <;> cases advanced
      exact Mirror.leads_remove world.store id
    | forgetGate _ _ => cases nothing
    | done => cases reply <;> cases advanced
  · have silent : after.withheld = [] := by
      by_contra withholds
      obtain ⟨id, rfl⟩ := exists_start_of_withheld advanced withholds
      cases rows
    rw [silent, List.append_nil, ofStore_of_advance advanced rows]
    exact .of_isOfRows _ fun notice => isOfRows_of_published rows

/-- A step that does not choose speaks of rows only. -/
theorem Activity.rows_of_advance
    (advanced : activity.advance task world reply = some (world', after))
    (nothing : activity.withheld = []) (plain : (activity.deed world).chooses = false) :
    after.withheld = [] ∧ (∀ notice ∈ activity.published world, notice.isOfRows = true) ∧
      Mirror.ofStore world'.store = Mirror.ofStore world.store := by
  have silent : after.withheld = [] := by
    by_contra withholds
    obtain ⟨id, rfl⟩ := exists_start_of_withheld advanced withholds
    cases plain
  have leads := leads_of_advance advanced nothing
  rw [silent, List.append_nil] at leads
  have rows : ∀ notice ∈ activity.published world, notice.isOfRows = true := by
    rcases Activity.isOfRows_deed world activity with ⟨change, rfl⟩ | ⟨stage, rfl⟩ | rows
    · cases change with
      | setWantsMore _ _ => exact fun _ member => nomatch member
      | clear id =>
        intro notice member
        obtain rfl := List.mem_singleton.mp member
        rfl
      | _ => cases plain
    · cases stage with
      | forgetGate _ _ => cases nothing
      | _ => exact fun _ member => nomatch member
    · exact fun _ => isOfRows_of_published rows
  exact ⟨silent, rows, leads.follows.symm.trans (Mirror.follow_of_isOfRows _ rows)⟩

end

/-! ### Runs -/

variable {session next : Session} {move : Move} {moves : List Move}

/-- No removal is half done. -/
def Settled (session : Session) : Prop :=
  ∀ (task : Nat) (id : RepositoryId) (notices : List Notice),
    session.activities[task]? ≠ some (.remove (.forgetGate id notices))

/-- The calls that choose come one after the other: none takes effect while a removal is half
done. -/
def OneByOne : Session → List Move → Prop :=
  Throughout fun session move => (session.deedOf move).chooses = true → session.Settled

/-- What the activity of a task has still to publish. -/
def withheldBy (session : Session) (task : Nat) : List Notice :=
  (session.activities[task]?.map Activity.withheld).getD []

/-- The notices of a run lead to what there is to know, with those that one removal at most has
still to publish. -/
def Mirrored (mirror : Mirror) (notices : List Notice) (session : Session) : Prop :=
  ∃ task, (∀ other, other ≠ task → session.withheldBy other = []) ∧
    mirror.Leads (notices ++ session.withheldBy task) (Mirror.ofStore session.world.store)

theorem Settled.withheldBy (settled : session.Settled) (task : Nat) :
    session.withheldBy task = [] := by
  rw [Session.withheldBy]
  cases held : session.activities[task]? with
  | none => rfl
  | some activity =>
    rw [Option.map_some, Option.getD_some]
    unfold Activity.withheld
    split
    next id notices => exact absurd held (settled task id notices)
    next => rfl

theorem withheldBy_of_other (moved : session.move move = some next) {task : Nat}
    (other : task ≠ session.mover move) : next.withheldBy task = session.withheldBy task := by
  rw [withheldBy, activities_of_other moved other, withheldBy]

theorem Mirrored.of_move {mirror : Mirror} {notices : List Notice}
    (mirrored : session.Mirrored mirror notices) (moved : session.move move = some next)
    (alone : (session.deedOf move).chooses = true → session.Settled) :
    next.Mirrored mirror (notices ++ session.publication move) := by
  obtain ⟨task, others, leads⟩ := mirrored
  cases Turn.of_move moved with
  | start call =>
    have same (other : Nat) : (session.start call).withheldBy other = session.withheldBy other := by
      by_cases new : other = session.activities.length
      · subst new
        have begun : call.begin.withheld = [] := by cases call <;> rfl
        simp [withheldBy, start, begun]
      · exact withheldBy_of_other moved new
    refine ⟨task, fun other different => (same other).trans (others other different), ?_⟩
    rw [same, publication, List.append_nil]
    exact leads
  | @advance mover reply before after world held stepped =>
    have mine : session.withheldBy mover = before.withheld := by rw [withheldBy, held]; rfl
    have published : session.publication (.advance mover reply) =
        before.published session.world := by rw [publication, held]; rfl
    have deed : session.deedOf (.advance mover reply) = before.deed session.world := by
      rw [deedOf, held]; rfl
    have goesOn : withheldBy ⟨world, session.activities.set mover after⟩ mover =
        after.withheld := by
      obtain ⟨inside, -⟩ := List.getElem?_eq_some_iff.mp held
      rw [withheldBy, List.getElem?_set_self inside]
      rfl
    have stays {other : Nat} (different : other ≠ mover) :
        withheldBy ⟨world, session.activities.set mover after⟩ other = session.withheldBy other :=
      withheldBy_of_other moved different
    rw [published]
    by_cases nothing : before.withheld = []
    · by_cases done : session.withheldBy task = []
      · -- Nothing is withheld, so what the step withholds is all.
        rw [done, List.append_nil] at leads
        refine ⟨mover, fun other different => ?_, ?_⟩
        · rw [stays different]
          by_cases same : other = task
          · rw [same, done]
          · exact others other same
        · rw [goesOn, List.append_assoc]
          exact leads.trans (Activity.leads_of_advance stepped nothing)
      · -- A removal is half done, so the step does not choose.
        have elsewhere : task ≠ mover := by
          rintro rfl
          exact done (mine.trans nothing)
        have plain : (before.deed session.world).chooses = false := by
          rw [← deed, Bool.eq_false_iff]
          intro chooses
          exact done ((alone chooses).withheldBy task)
        obtain ⟨silent, rows, same⟩ := Activity.rows_of_advance stepped nothing plain
        refine ⟨task, fun other different => ?_, ?_⟩
        · by_cases moves : other = mover
          · rw [moves, goesOn, silent]
          · rw [stays moves, others other different]
        · rw [stays elsewhere, same]
          exact leads.insert rows
    · -- The removal that is half done publishes what it withheld.
      obtain rfl : mover = task := by
        by_contra different
        exact nothing (mine.symm.trans (others mover different))
      cases before with
      | remove stage =>
        cases stage with
        | forgetGate id notices =>
          cases reply <;> cases stepped
          refine ⟨mover, fun other different => ?_, ?_⟩
          · rw [stays different, others other different]
          · rw [goesOn, Activity.withheld, List.append_nil]
            · rw [mine] at leads
              exact leads
            · rintro _ _ ⟨⟩
        | _ => exact absurd rfl nothing
      | _ => exact absurd rfl nothing

theorem Mirrored.of_play {mirror : Mirror} {notices : List Notice}
    (mirrored : session.Mirrored mirror notices) (played : session.play moves = some next)
    (oneByOne : session.OneByOne moves) :
    next.Mirrored mirror (notices ++ session.trace publication moves) := by
  refine play_induction (fun moves next => session.OneByOne moves →
    next.Mirrored mirror (notices ++ session.trace publication moves)) (fun _ => ?start)
    (fun moves middle move next before mirrored moved oneByOne => ?step) played oneByOne
  case start =>
    rw [trace, List.append_nil]
    exact mirrored
  case step =>
    obtain ⟨earlier, alone⟩ := (throughout_concat before).mp oneByOne
    rw [trace_concat before, ← List.append_assoc]
    exact (mirrored earlier).of_move moved alone

/-- Whatever happens between the calls that choose, a subscriber knows the choice again whenever
no removal is half done. -/
theorem mirrored_of_play (settled : session.Settled) (played : session.play moves = some next)
    (oneByOne : session.OneByOne moves) (rests : next.Settled) :
    ∃ published, next.world.notices = session.world.notices ++ published ∧
      (Mirror.ofStore session.world.store).Leads published
        (Mirror.ofStore next.world.store) := by
  have start : session.Mirrored (Mirror.ofStore session.world.store) [] := by
    refine ⟨0, fun other _ => settled.withheldBy other, ?_⟩
    rw [settled.withheldBy]
    exact .refl _
  obtain ⟨task, -, leads⟩ := start.of_play played oneByOne
  rw [rests.withheldBy, List.append_nil] at leads
  exact ⟨_, notices_of_play played, leads⟩

/-- Calls that overlap can mislead a subscriber: a repository that comes back between the two steps
of its removal is tracked, and the removal is the last that is heard of it. -/
example : ∃ session,
    (new 50 .all).play [.start (.remove sampleRepository.id), .advance 0 none,
      .start (.edit (.add sampleRepository)), .advance 1 none, .advance 0 none] = some session ∧
    session.world.store.isTracked sampleRepository.id = true ∧
    ((Mirror.ofStore (.empty .all)).follow session.world.notices).tracked sampleRepository.id =
      false :=
  ⟨_, rfl, by decide, by decide⟩

end CommitHistory.Session
