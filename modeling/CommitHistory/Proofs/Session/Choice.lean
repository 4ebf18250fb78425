/-
# What is chosen to be shown

Which repository is shown and which scope histories have is changed by edits and removals
only, and whoever changes it says so in a notice. A removal says so in its second step, so for
a while it withholds the news. All other steps at most add notices.

## Main definitions

* `Calm` — a step that changes nothing about the choice.
* `Notice.isNews` — the notices of another selection or another scope.
* `Announced` — a choice is as it was, or news of it is published or withheld.

## Main results

* `Session.announced_of_move` — every move announces what it changes about the choice.
* `Session.Catalogued.of_play` — every repository is tracked under its own name.
-/

import CommitHistory.Proofs.Session.Display

namespace CommitHistory.Session

variable {task : Nat} {world world' : World} {reply : Option Reply}

/-! ### Calm steps -/

/-- Nothing changes about the choice, and notices are at most added. -/
structure Calm (before after : World) : Prop where
  notices : before.notices <+: after.notices
  repositories : after.store.repositories = before.store.repositories
  chosen : after.store.chosen = before.store.chosen
  active : after.store.active = before.store.active
  scope : after.store.scope = before.store.scope

namespace Calm

theorem of_same (store : world'.store = world.store) (notices : world'.notices = world.notices) :
    Calm world world' where
  notices := notices ▸ List.prefix_rfl
  repositories := by rw [store]
  chosen := by rw [store]
  active := by rw [store]
  scope := by rw [store]

theorem of_alter (world : World) (id : RepositoryId) (change : Cached → Cached) :
    Calm world { world with store := world.store.alter id change } := by
  unfold Store.alter
  split <;> exact ⟨List.prefix_rfl, rfl, rfl, rfl, rfl⟩

theorem selected? (calm : Calm world world') :
    world'.store.selected? = world.store.selected? := by
  have tracked : world'.store.isTracked = world.store.isTracked := by
    funext id
    rw [Store.isTracked, calm.repositories, Store.isTracked]
  rw [Store.selected?, tracked, calm.chosen, calm.active, Store.selected?]

end Calm

theorem Fetch.calm_of_advance {repository : Repository} {stage next : Fetch}
    (advanced : stage.advance task repository world reply = some (world', next)) :
    Calm world world' := by
  cases Steps.of_advance advanced with
  | drop _ => exact ⟨List.prefix_rfl, rfl, rfl, rfl, rfl⟩
  | keep _ => exact ⟨List.prefix_append _ _, rfl, rfl, rfl, rfl⟩
  | _ => exact .of_same rfl rfl

theorem LoadMore.calm_of_advance {repository : Repository} {stage next : LoadMore}
    (advanced : stage.advance task repository world reply = some (world', next)) :
    Calm world world' := by
  cases stage with
  | guard =>
    cases reply with
    | some _ => cases advanced
    | none =>
      rw [advance] at advanced
      split at advanced
      next => cases advanced; exact .of_same rfl rfl
      next =>
        simp only at advanced
        split at advanced <;> cases advanced
        next => exact .of_same rfl rfl
        next => exact .of_alter world _ _
  | fetching fetch =>
    obtain ⟨_, stepped, -⟩ := exists_of_map_eq_some advanced
    exact Fetch.calm_of_advance stepped
  | unmark _ => cases reply <;> cases advanced; exact .of_alter world _ _
  | done _ => cases advanced

theorem Children.calm_of_advance {stage next : Children}
    (advanced : stage.advance task world reply = some (world', next)) : Calm world world' := by
  cases stage with
  | select =>
    cases reply with
    | some _ => cases advanced
    | none =>
      rw [advance] at advanced
      split at advanced <;> cases advanced <;> exact .of_same rfl rfl
  | fetching _ fetch =>
    obtain ⟨_, stepped, -⟩ := exists_of_map_eq_some advanced
    exact Fetch.calm_of_advance stepped
  | done _ => cases advanced

theorem Showing.Steps.calm {stage next : Showing}
    (steps : Showing.Steps task world stage reply world' next) : Calm world world' := by
  cases steps with
  | read advanced => exact Children.calm_of_advance advanced
  | _ => exact .of_same rfl rfl

theorem Update.Steps.calm {stage next : Update}
    (steps : Update.Steps task world stage reply world' next) : Calm world world' := by
  cases steps with
  | clear id => exact ⟨List.prefix_append _ _, rfl, rfl, rfl, rfl⟩
  | showLines advanced => exact (Showing.Steps.of_advance advanced).calm
  | _ => exact .of_same rfl rfl

theorem Refresh.Steps.calm {stage next : Refresh}
    (steps : Refresh.Steps task world stage reply world' next) : Calm world world' := by
  cases steps with
  | work steps => exact steps.calm
  | _ => exact .of_same rfl rfl

theorem MoreLines.Steps.calm {stage next : MoreLines}
    (steps : MoreLines.Steps task world stage reply world' next) : Calm world world' := by
  cases steps with
  | load advanced => exact LoadMore.calm_of_advance advanced
  | showLines advanced => exact (Showing.Steps.of_advance advanced).calm
  | _ => exact .of_same rfl rfl

theorem Handling.calm_of_advance {stage next : Handling}
    (advanced : stage.advance task world reply = some (world', next)) : Calm world world' := by
  cases stage with
  | start notice => cases reply <;> cases notice <;> cases advanced <;> exact .of_same rfl rfl
  | compare _ => cases reply <;> cases advanced; exact .of_same rfl rfl
  | refreshing _ =>
    obtain ⟨_, stepped, -⟩ := exists_of_map_eq_some advanced
    exact (Refresh.Steps.of_advance stepped).calm
  | done _ => cases advanced

theorem Follow.calm_of_advance {stage next : Follow}
    (advanced : stage.advance task world reply = some (world', next)) : Calm world world' := by
  cases stage with
  | reading feed =>
    cases reply with
    | some _ => cases advanced
    | none =>
      rw [advance] at advanced
      split at advanced <;> cases advanced <;> exact .of_same rfl rfl
  | handling _ _ =>
    obtain ⟨_, stepped, -⟩ := exists_of_map_eq_some advanced
    exact Handling.calm_of_advance stepped
  | refreshing _ _ =>
    obtain ⟨_, stepped, -⟩ := exists_of_map_eq_some advanced
    exact (Refresh.Steps.of_advance stepped).calm
  | _ => cases advanced

/-- A step of an activity, seen from the choice. -/
inductive Activity.Chooses (world : World) : Activity → World → Activity → Prop
  | calm {activity after : Activity} {world' : World} (calm : Calm world world') :
      Chooses world activity world' after
  | edit (change : Edit) : Chooses world (.edit change) (change.apply world) .edited
  | remove (id : RepositoryId) :
      Chooses world (.remove (.start id)) { world with store := world.store.remove id }
        (.remove (.forgetGate id (World.selectionNotices world.store (world.store.remove id))))

theorem Activity.Chooses.of_advance {activity after : Activity}
    (advanced : activity.advance task world reply = some (world', after)) :
    Activity.Chooses world activity world' after := by
  cases activity with
  | fetch _ _ =>
    obtain ⟨_, stepped, -⟩ := exists_of_map_eq_some advanced
    exact .calm (Fetch.calm_of_advance stepped)
  | loadMore _ _ =>
    obtain ⟨_, stepped, -⟩ := exists_of_map_eq_some advanced
    exact .calm (LoadMore.calm_of_advance stepped)
  | ancestor _ _ =>
    obtain ⟨_, stepped, -⟩ := exists_of_map_eq_some advanced
    obtain rfl := Ancestor.world_of_advance stepped
    exact .calm (.of_same rfl rfl)
  | edit change =>
    cases reply with
    | some _ => cases advanced
    | none =>
      obtain ⟨rfl, rfl⟩ := advanced
      exact .edit change
  | remove stage =>
    obtain ⟨_, stepped, rfl⟩ := exists_of_map_eq_some advanced
    unfold Removal.advance at stepped
    split at stepped
    next id => cases stepped; exact .remove id
    next => cases stepped; exact .calm ⟨List.prefix_append _ _, rfl, rfl, rfl, rfl⟩
    next => cases stepped
  | children _ =>
    obtain ⟨_, stepped, -⟩ := exists_of_map_eq_some advanced
    exact .calm (Children.calm_of_advance stepped)
  | refresh _ =>
    obtain ⟨_, stepped, -⟩ := exists_of_map_eq_some advanced
    exact .calm (Refresh.Steps.of_advance stepped).calm
  | moreLines _ =>
    obtain ⟨_, stepped, -⟩ := exists_of_map_eq_some advanced
    exact .calm (MoreLines.Steps.of_advance stepped).calm
  | handle _ =>
    obtain ⟨_, stepped, -⟩ := exists_of_map_eq_some advanced
    exact .calm (Handling.calm_of_advance stepped)
  | follow _ =>
    obtain ⟨_, stepped, -⟩ := exists_of_map_eq_some advanced
    exact .calm (Follow.calm_of_advance stepped)
  | openLine _ =>
    obtain ⟨_, stepped, -⟩ := exists_of_map_eq_some advanced
    obtain rfl := Opening.world_of_advance stepped
    exact .calm (.of_same rfl rfl)
  | ask _ =>
    cases reply with
    | none => cases advanced
    | some _ =>
      obtain ⟨rfl, -⟩ := advanced
      exact .calm (.of_same rfl rfl)
  | edited | told _ => cases advanced

/-! ### News -/

/-- A notice of another selection or another scope. -/
def Notice.isNews : Notice → Bool
  | .selected _ | .scope _ => true
  | _ => false

/-- A removal that has yet to say that another repository is selected. -/
def Activity.withholds : Activity → Bool
  | .remove (.forgetGate _ notices) => notices.any Notice.isNews
  | _ => false

/-- Some notices hold news. -/
def HasNews (notices : List Notice) : Prop := ∃ notice ∈ notices, notice.isNews = true

/-- The choice is as it was, or there is news among the notices that were added. -/
def Announced (before after : World) : Prop :=
  (after.store.selected? = before.store.selected? ∧ after.store.scope = before.store.scope) ∨
    HasNews (after.notices.drop before.notices.length)

theorem World.hasNews_selectionNotices {before after : Store}
    (other : before.selected? ≠ after.selected?) :
    HasNews (World.selectionNotices before after) := by
  rw [World.selectionNotices, if_neg other]
  exact ⟨_, List.mem_singleton_self _, rfl⟩

theorem World.announced_reselect (world : World) {store : Store} (notices : List Notice)
    (scope : store.scope = world.store.scope) : Announced world (world.reselect store notices) := by
  by_cases same : world.store.selected? = store.selected?
  · exact Or.inl ⟨same.symm, scope⟩
  · obtain ⟨notice, member, news⟩ := World.hasNews_selectionNotices same
    refine Or.inr ⟨notice, ?_, news⟩
    rw [World.reselect, World.publish, List.drop_left]
    exact List.mem_append_right notices member

/-- An edit announces what it changes about the choice at once. -/
theorem Edit.announced_apply (world : World) (change : Edit) :
    Announced world (change.apply world) := by
  cases change with
  | add repository => exact World.announced_reselect world _ rfl
  | choose id => exact World.announced_reselect world _ rfl
  | activate id => exact World.announced_reselect world _ rfl
  | setScope scope =>
    rw [Edit.apply]
    split
    · exact Or.inl ⟨rfl, rfl⟩
    · refine Or.inr ⟨.scope scope, ?_, rfl⟩
      rw [World.publish, List.drop_left]
      exact List.mem_singleton_self _
  | setWantsMore id wantsMore =>
    have calm : Calm world ((Edit.setWantsMore id wantsMore).apply world) := .of_alter world id _
    exact Or.inl ⟨calm.selected?, calm.scope⟩
  | clear id => exact Or.inl ⟨rfl, rfl⟩

theorem Edit.notices_prefix (world : World) (change : Edit) :
    world.notices <+: (change.apply world).notices := by
  cases change with
  | setScope scope =>
    rw [Edit.apply]
    split
    · exact List.prefix_rfl
    · exact List.prefix_append _ _
  | setWantsMore _ _ => exact List.prefix_rfl
  | _ => exact List.prefix_append _ _

variable {session next : Session} {move : Move} {moves : List Move} {pageSize : Nat} {scope : Scope}

/-- No notice is ever taken back. -/
theorem notices_prefix_of_move (moved : session.move move = some next) :
    session.world.notices <+: next.world.notices := by
  cases Turn.of_move moved with
  | start _ => exact List.prefix_rfl
  | advance _ stepped =>
    cases Activity.Chooses.of_advance stepped with
    | calm calm => exact calm.notices
    | edit change => exact change.notices_prefix session.world
    | remove _ => exact List.prefix_rfl

/-- Every move announces what it changes about the choice, or withholds it for a while. -/
theorem announced_of_move (moved : session.move move = some next) :
    Announced session.world next.world ∨
      ∃ activity, next.activities[session.mover move]? = some activity ∧
        activity.withholds = true := by
  cases Turn.of_move moved with
  | start _ => exact Or.inl (Or.inl ⟨rfl, rfl⟩)
  | advance held stepped =>
    cases Activity.Chooses.of_advance stepped with
    | calm calm => exact Or.inl (Or.inl ⟨calm.selected?, calm.scope⟩)
    | edit change => exact Or.inl (change.announced_apply session.world)
    | remove id =>
      by_cases same : session.world.store.selected? = (session.world.store.remove id).selected?
      · exact Or.inl (Or.inl ⟨same.symm, rfl⟩)
      · obtain ⟨inside, -⟩ := List.getElem?_eq_some_iff.mp held
        refine Or.inr ⟨_, List.getElem?_set_self inside, ?_⟩
        exact List.any_eq_true.mpr (World.hasNews_selectionNotices same)

/-! ### Names -/

/-- Every tracked repository is tracked under its own name. -/
def Catalogued (session : Session) : Prop :=
  ∀ id repository, session.world.store.repositories.get? id = some repository →
    repository.id = id

theorem Store.repositories_setScope (store : Store) (scope : Scope) :
    (store.setScope scope).repositories = store.repositories := by
  rw [Store.setScope]
  generalize store.cached.keys = ids
  have dropped (store : Store) : (ids.foldl Store.invalidate store).repositories =
      store.repositories := by
    induction ids generalizing store with
    | nil => rfl
    | cons id rest ih => exact (ih _).trans rfl
  exact dropped _

theorem Catalogued.of_move (catalogued : session.Catalogued)
    (moved : session.move move = some next) : next.Catalogued := by
  have kept (same : next.world.store.repositories = session.world.store.repositories) :
      next.Catalogued := fun id repository found => catalogued id repository (same ▸ found)
  cases Turn.of_move moved with
  | start _ => exact catalogued
  | advance _ stepped =>
    cases Activity.Chooses.of_advance stepped with
    | calm calm => exact kept calm.repositories
    | edit change =>
      cases change with
      | add added =>
        intro id repository found
        have found : (session.world.store.repositories.put added.id added).get? id =
          some repository := found
        rw [Table.get?_put] at found
        split at found
        next same =>
          cases found
          exact same.symm
        next => exact catalogued id repository found
      | setScope scope =>
        refine kept ?_
        simp only [Edit.apply]
        split
        · rfl
        · exact Store.repositories_setScope session.world.store scope
      | setWantsMore id _ => exact kept (Calm.of_alter session.world id _).repositories
      | _ => exact kept rfl
    | remove removed =>
      intro id repository found
      have found : (session.world.store.repositories.erase removed).get? id = some repository :=
        found
      rw [Table.get?_erase] at found
      split at found
      next => cases found
      next => exact catalogued id repository found

theorem Catalogued.of_play (played : (new pageSize scope).play moves = some session) :
    session.Catalogued :=
  play_induction (fun _ session => session.Catalogued) (fun _ _ found => by cases found)
    (fun _ _ _ _ _ catalogued moved => catalogued.of_move moved) played

/-- A selected repository is tracked under the name by which it is selected. -/
theorem Catalogued.exists_of_selected? (catalogued : session.Catalogued) {id : RepositoryId}
    (selected : session.world.store.selected? = some id) :
    ∃ repository, session.world.store.selectedRepository? = some repository ∧
      repository.id = id := by
  have tracked : session.world.store.isTracked id = true := by
    rw [Store.selected?, Option.or_eq_some_iff] at selected
    obtain chosen | ⟨-, active⟩ := selected
    · exact (Option.filter_eq_some_iff.mp chosen).2
    · exact (Option.filter_eq_some_iff.mp active).2
  obtain ⟨repository, found⟩ := Option.isSome_iff_exists.mp tracked
  refine ⟨repository, ?_, catalogued id repository found⟩
  rw [Store.selectedRepository?, selected, Option.bind_some, found]

/-- The repository that is shown is the one that is selected. -/
theorem Catalogued.selected?_of_repository (catalogued : session.Catalogued)
    {repository : Repository}
    (selected : session.world.store.selectedRepository? = some repository) :
    session.world.store.selected? = some repository.id := by
  obtain ⟨id, chosen, found⟩ := Option.bind_eq_some_iff.mp selected
  rw [chosen, catalogued id repository found]

end CommitHistory.Session
