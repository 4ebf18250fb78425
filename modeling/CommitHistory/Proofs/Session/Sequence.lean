/-
# Calls that choose, one after the other

Calls that add, remove, choose or activate a repository or set the scope wait for nothing, so any
number of them made one after the other come to their end. Each changes what it names and nothing
else. A subscriber that applies what they publish then knows what they have chosen, and a repository
that was removed is not selected again before it is named again.

## Main definitions

* `Choosing` — the calls that choose.
* `Choosing.sequence` — calls made one after the other.
* `Choice`, `Choice.after` — what can be chosen, and what a call makes of it.

## Main results

* `Choosing.play_sequence` — such calls all come to their end.
* `Choosing.choice_foldl` — what they have changed then.
* `Choosing.mirrored_of_sequence` — what a subscriber knows then, and what is selected.
-/

import CommitHistory.Proofs.Session.Mirror

namespace CommitHistory.Session

/-! ### Sequences of calls -/

/-- A call that chooses. -/
inductive Choosing where
  | add (repository : Repository)
  | remove (id : RepositoryId)
  | choose (id : Option RepositoryId)
  | activate (id : Option RepositoryId)
  | setScope (scope : Scope)

namespace Choosing

/-- The call. -/
def call : Choosing → Call
  | .add repository => .edit (.add repository)
  | .remove id => .remove id
  | .choose id => .edit (.choose id)
  | .activate id => .edit (.activate id)
  | .setScope scope => .edit (.setScope scope)

/-- How many steps the call takes. -/
def steps : Choosing → Nat
  | .remove _ => 2
  | _ => 1

/-- The moves of the call as a task, from its start to its end. -/
def moves (choosing : Choosing) (task : Nat) : List Move :=
  .start choosing.call :: List.replicate choosing.steps (.advance task none)

/-- The moves of calls that are made one after the other, the first as a task with a number. -/
def sequence (task : Nat) : List Choosing → List Move
  | [] => []
  | choosing :: rest => choosing.moves task ++ sequence (task + 1) rest

/-- The world after the call. -/
def apply (world : World) : Choosing → World
  | .add repository => (Edit.add repository).apply world
  | .remove id =>
    { world with store := world.store.remove id, gates := world.gates.forget id }.publish
      (.removed id :: World.selectionNotices world.store (world.store.remove id))
  | .choose id => (Edit.choose id).apply world
  | .activate id => (Edit.activate id).apply world
  | .setScope scope => (Edit.setScope scope).apply world

/-- The call when it is over. -/
def ended : Choosing → Activity
  | .remove _ => .remove .done
  | _ => .edited

theorem play_moves (session : Session) (choosing : Choosing) :
    session.play (choosing.moves session.activities.length) =
      some ⟨choosing.apply session.world, session.activities ++ [choosing.ended]⟩ := by
  cases choosing <;>
    simp [play, moves, steps, List.replicate, move, start, Session.advance, call, Call.begin,
      Activity.advance, Removal.advance, apply, ended, Prod.map]

/-- Calls that are made one after the other all come to their end. -/
theorem play_sequence (session : Session) (calls : List Choosing) :
    session.play (sequence session.activities.length calls) =
      some ⟨calls.foldl apply session.world, session.activities ++ calls.map ended⟩ := by
  induction calls generalizing session with
  | nil => simp [sequence, play]
  | cons choosing rest ih =>
    have later := ih ⟨choosing.apply session.world, session.activities ++ [choosing.ended]⟩
    rw [List.length_append, List.length_singleton] at later
    rw [sequence, play_append_of_play (play_moves session choosing), later]
    simp

/-- What a call publishes makes known what it has changed. -/
theorem leads (world : World) (choosing : Choosing) :
    ∃ published, (choosing.apply world).notices = world.notices ++ published ∧
      (Mirror.ofStore world.store).Leads published
        (Mirror.ofStore (choosing.apply world).store) := by
  have edited (change : Edit) : ∃ published,
      (change.apply world).notices = world.notices ++ published ∧
        (Mirror.ofStore world.store).Leads published (Mirror.ofStore (change.apply world).store) :=
    ⟨_, change.notices_apply world, Mirror.leads_edit world change⟩
  cases choosing with
  | remove id => exact ⟨_, rfl, Mirror.leads_remove world.store id⟩
  | _ => exact edited _

theorem leads_foldl (world : World) (calls : List Choosing) :
    ∃ published, (calls.foldl apply world).notices = world.notices ++ published ∧
      (Mirror.ofStore world.store).Leads published
        (Mirror.ofStore (calls.foldl apply world).store) := by
  induction calls generalizing world with
  | nil => exact ⟨[], (List.append_nil _).symm, .refl _⟩
  | cons choosing rest ih =>
    obtain ⟨first, notices, now⟩ := choosing.leads world
    obtain ⟨more, notices', later⟩ := ih (choosing.apply world)
    refine ⟨first ++ more, ?_, now.trans later⟩
    rw [List.foldl_cons, notices', notices, List.append_assoc]

end Choosing

/-! ### What a call changes -/

/-- What can be chosen: which repositories are tracked, the one that was chosen, the one that is
worked in, and the scope. -/
@[ext]
structure Choice where
  tracked : RepositoryId → Bool
  chosen : Option RepositoryId
  active : Option RepositoryId
  scope : Scope

namespace Choice

/-- The choice in a store. -/
def ofStore (store : Store) : Choice :=
  { tracked := store.isTracked, chosen := store.chosen, active := store.active
    scope := store.scope }

/-- A name, unless it is that of a repository which is removed. -/
def without (id : RepositoryId) (named : Option RepositoryId) : Option RepositoryId :=
  if named = some id then none else named

/-- The choice after a call. -/
def after (choice : Choice) : Choosing → Choice
  | .add repository => { choice with tracked := Function.update choice.tracked repository.id true }
  | .remove id =>
    { choice with
      tracked := Function.update choice.tracked id false
      chosen := without id choice.chosen
      active := without id choice.active }
  | .choose id => { choice with chosen := id }
  | .activate id => { choice with active := id }
  | .setScope scope => { choice with scope }

theorem filter_ne_eq_without (id : RepositoryId) (named : Option RepositoryId) :
    (named.filter fun other => other ≠ id) = without id named := by
  cases named with
  | none => rfl
  | some other => by_cases same : other = id <;> simp [without, same]

theorem without_ne_self (id : RepositoryId) (named : Option RepositoryId) :
    without id named ≠ some id := by
  rw [without]
  split
  next => nofun
  next other => exact other

theorem without_ne {id other : RepositoryId} {named : Option RepositoryId}
    (unnamed : named ≠ some id) : without other named ≠ some id := by
  rw [without]
  split
  next => nofun
  next => exact unnamed

variable {choice : Choice} {id : RepositoryId} {choosing : Choosing}

theorem chosen_after_ne (unnamed : choice.chosen ≠ some id)
    (notChosen : choosing ≠ .choose (some id)) : (choice.after choosing).chosen ≠ some id := by
  cases choosing with
  | choose named => exact fun same => notChosen (congrArg Choosing.choose same)
  | remove _ => exact without_ne unnamed
  | add _ | activate _ | setScope _ => exact unnamed

theorem active_after_ne (unnamed : choice.active ≠ some id)
    (notActive : choosing ≠ .activate (some id)) : (choice.after choosing).active ≠ some id := by
  cases choosing with
  | activate named => exact fun same => notActive (congrArg Choosing.activate same)
  | remove _ => exact without_ne unnamed
  | add _ | choose _ | setScope _ => exact unnamed

end Choice

namespace Choosing

/-- A call changes what it names. -/
theorem choice_apply (world : World) (choosing : Choosing) :
    Choice.ofStore (choosing.apply world).store = (Choice.ofStore world.store).after choosing := by
  cases choosing with
  | add repository => exact Choice.ext (Mirror.isTracked_add world.store repository) rfl rfl rfl
  | remove id =>
    exact Choice.ext (Mirror.isTracked_remove world.store id) (Choice.filter_ne_eq_without id _)
      (Choice.filter_ne_eq_without id _) rfl
  | choose _ | activate _ => rfl
  | setScope scope =>
    rw [apply, Edit.apply]
    split
    next same =>
      rw [← same]
      rfl
    next =>
      have known := Mirror.ofStore_setScope world.store scope
      obtain ⟨chosen, active⟩ := world.store.choice_setScope scope
      exact Choice.ext (congrArg Mirror.tracked known) chosen active (congrArg Mirror.scope known)

/-- Calls change what they name, one after the other. -/
theorem choice_foldl (world : World) (calls : List Choosing) :
    Choice.ofStore (calls.foldl apply world).store =
      calls.foldl Choice.after (Choice.ofStore world.store) := by
  induction calls generalizing world with
  | nil => rfl
  | cons choosing rest ih => rw [List.foldl_cons, List.foldl_cons, ih, choice_apply]

end Choosing

/-! ### Selections -/

/-- The repository that is selected is tracked; it is the one that was chosen, or the active one
if none was chosen that is tracked. -/
theorem Store.selected?_eq_some_iff {store : Store} {id : RepositoryId} :
    store.selected? = some id ↔ store.isTracked id = true ∧ (store.chosen = some id ∨
      store.active = some id ∧
        ∀ other, store.chosen = some other → store.isTracked other = false) := by
  rw [Store.selected?, Option.or_eq_some_iff, Option.filter_eq_some_iff, Option.filter_eq_some_iff,
    Option.filter_eq_none_iff]
  constructor
  · rintro (⟨chosen, tracked⟩ | ⟨untracked, active, tracked⟩)
    · exact ⟨tracked, .inl chosen⟩
    · refine ⟨tracked, .inr ⟨active, fun other chosen => ?_⟩⟩
      exact eq_false_of_ne_true (untracked other chosen)
  · rintro ⟨tracked, chosen | ⟨active, untracked⟩⟩
    · exact .inl ⟨chosen, tracked⟩
    · refine .inr ⟨fun other chosen => ?_, active, tracked⟩
      rw [untracked other chosen]
      exact Bool.false_ne_true

/-- The repository is neither chosen nor active. -/
structure Store.Unnamed (id : RepositoryId) (store : Store) : Prop where
  chosen : store.chosen ≠ some id
  active : store.active ≠ some id

theorem Store.Unnamed.selected? {id : RepositoryId} {store : Store} (unnamed : store.Unnamed id) :
    store.selected? ≠ some id := by
  intro selected
  obtain ⟨-, chosen | ⟨active, -⟩⟩ := Store.selected?_eq_some_iff.mp selected
  · exact unnamed.chosen chosen
  · exact unnamed.active active

namespace Choosing

variable {world : World} {id : RepositoryId}

theorem chosen_apply (world : World) (choosing : Choosing) :
    (choosing.apply world).store.chosen = ((Choice.ofStore world.store).after choosing).chosen :=
  congrArg Choice.chosen (choice_apply world choosing)

theorem active_apply (world : World) (choosing : Choosing) :
    (choosing.apply world).store.active = ((Choice.ofStore world.store).after choosing).active :=
  congrArg Choice.active (choice_apply world choosing)

theorem unnamed_remove (world : World) (id : RepositoryId) :
    ((Choosing.remove id).apply world).store.Unnamed id := by
  constructor
  · rw [chosen_apply]
    exact Choice.without_ne_self id _
  · rw [active_apply]
    exact Choice.without_ne_self id _

/-- A repository that is neither chosen nor active becomes so by being named only. -/
theorem unnamed_apply (unnamed : world.store.Unnamed id) {choosing : Choosing}
    (notChosen : choosing ≠ .choose (some id)) (notActive : choosing ≠ .activate (some id)) :
    (choosing.apply world).store.Unnamed id := by
  constructor
  · rw [chosen_apply]
    exact Choice.chosen_after_ne unnamed.chosen notChosen
  · rw [active_apply]
    exact Choice.active_after_ne unnamed.active notActive

theorem unnamed_foldl (unnamed : world.store.Unnamed id) {calls : List Choosing}
    (notChosen : .choose (some id) ∉ calls) (notActive : .activate (some id) ∉ calls) :
    (calls.foldl apply world).store.Unnamed id := by
  induction calls generalizing world with
  | nil => exact unnamed
  | cons choosing rest ih =>
    rw [List.mem_cons, not_or] at notChosen notActive
    exact ih (unnamed_apply unnamed (Ne.symm notChosen.1) (Ne.symm notActive.1)) notChosen.2
      notActive.2

/-- Calls that choose, made one after the other, all come to their end, and each has changed what it
names. A subscriber that applies what they publish to what it knew before knows what there is to
know then, and is told no selection twice. The repository that is selected is tracked, and the
chosen one comes before the active one. A repository that was removed and was not named since is
neither chosen, nor active, nor selected, whether or not it was added again. -/
theorem mirrored_of_sequence (session : Session) (calls : List Choosing) :
    ∃ next published,
      session.play (sequence session.activities.length calls) = some next ∧
      (∀ task, session.activities.length ≤ task → task < session.activities.length + calls.length →
        next.result? task = some .nothing) ∧
      Choice.ofStore next.world.store =
        calls.foldl Choice.after (Choice.ofStore session.world.store) ∧
      next.world.notices = session.world.notices ++ published ∧
      (Mirror.ofStore session.world.store).follow published = Mirror.ofStore next.world.store ∧
      List.IsChain (· ≠ ·) (session.world.store.selected? :: selections published) ∧
      (∀ id, next.world.store.selected? = some id ↔ next.world.store.isTracked id = true ∧
        (next.world.store.chosen = some id ∨ next.world.store.active = some id ∧
          ∀ other, next.world.store.chosen = some other →
            next.world.store.isTracked other = false)) ∧
      (∀ earlier id later, calls = earlier ++ .remove id :: later →
        .choose (some id) ∉ later → .activate (some id) ∉ later →
        next.world.store.chosen ≠ some id ∧ next.world.store.active ≠ some id ∧
          next.world.store.selected? ≠ some id) := by
  obtain ⟨published, notices, leads⟩ := leads_foldl session.world calls
  refine ⟨_, published, play_sequence session calls, ?ended, choice_foldl session.world calls,
    notices, leads.follows, leads.fresh, fun _ => Store.selected?_eq_some_iff, ?unnamed⟩
  case ended =>
    intro task first last
    rw [result?, List.getElem?_append_right first, List.getElem?_map]
    obtain ⟨choosing, found⟩ :
        ∃ choosing, calls[task - session.activities.length]? = some choosing :=
      ⟨_, List.getElem?_eq_getElem (by omega)⟩
    rw [found]
    cases choosing <;> rfl
  case unnamed =>
    rintro earlier id later rfl notChosen notActive
    have unnamed := unnamed_foldl (unnamed_remove (earlier.foldl apply session.world) id) notChosen
      notActive
    rw [List.foldl_append, List.foldl_cons]
    exact ⟨unnamed.chosen, unnamed.active, unnamed.selected?⟩

/-- A repository that was selected by hand is not selected when it comes back. -/
example :
    ([.add sampleRepository, .choose (some sampleRepository.id), .remove sampleRepository.id,
      .add sampleRepository].foldl apply (World.start 50 .all)).notices =
      [.added sampleRepository.id, .selected (some sampleRepository.id),
        .removed sampleRepository.id, .selected none, .added sampleRepository.id] := by
  decide

end Choosing

end CommitHistory.Session
