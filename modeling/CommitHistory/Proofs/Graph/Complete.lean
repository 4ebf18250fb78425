/-
# Complete histories

In a complete history every parent of a commit comes below it. Of its first commits some may
have parents that are further down, and exactly then more is offered below their rows: the
offer says that a parent of something that is shown is missing, and not that the history goes
on. Where the first commits are closed under parents nothing is offered, even if other roots
and unrelated lines follow.

## Main definitions

* `Commit.Complete` — all parents come below.
* `Commit.Closed` — no parent is missing.
* `TreeLine.Shows` — which commits lines show, and whether more is offered.

## Main results

* `Commit.Complete.exists_awaited_iff` — when the first commits of a complete history leave a
  lane open.
* `TreeLine.shows_ofPages` — what the lines of pages of a complete history are.
-/

import CommitHistory.Proofs.Graph.OpenLanes

namespace CommitHistory

namespace Commit

/-- A whole history: no two commits share a name, and every parent of a commit comes below it.
There may be any number of roots. -/
structure Complete (history : List Commit) : Prop where
  distinct : (history.map Commit.id).Nodup
  below : ∀ before commit after, history = before ++ commit :: after →
    ∀ parent ∈ commit.parents, parent ∈ after.map Commit.id

/-- Every parent of one of the commits is one of them. -/
def Closed (commits : List Commit) : Prop :=
  ∀ commit ∈ commits, ∀ parent ∈ commit.parents, parent ∈ commits.map Commit.id

/-- No commit but the last is without parents. -/
def Rooted (history : List Commit) : Prop :=
  ∀ before commit after, history = before ++ commit :: after → commit.parents = [] → after = []

instance (commits : List Commit) : Decidable (Closed commits) :=
  inferInstanceAs (Decidable (∀ commit ∈ commits, ∀ parent ∈ commit.parents,
    parent ∈ commits.map Commit.id))

variable {history loaded after : List Commit} {commit : Commit}

theorem complete_nil : Complete [] where
  distinct := List.nodup_nil
  below _ _ _ split := by simp at split

theorem complete_cons : Complete (commit :: after) ↔
    commit.id ∉ after.map Commit.id ∧ (∀ parent ∈ commit.parents, parent ∈ after.map Commit.id) ∧
      Complete after := by
  constructor
  · intro complete
    obtain ⟨fresh, distinct⟩ := List.nodup_cons.mp complete.distinct
    refine ⟨fresh, complete.below [] commit after rfl, distinct, ?_⟩
    intro before other below split
    exact complete.below (commit :: before) other below (by rw [split]; rfl)
  · rintro ⟨fresh, parents, distinct, rest⟩
    refine ⟨List.nodup_cons.mpr ⟨fresh, distinct⟩, ?_⟩
    intro before other below split
    cases before with
    | nil =>
      obtain ⟨rfl, rfl⟩ := List.cons.inj split
      exact parents
    | cons first before => exact rest before other below (List.cons.inj split).2

instance decidableComplete : (history : List Commit) → Decidable (Complete history)
  | [] => .isTrue complete_nil
  | _ :: after =>
    have := decidableComplete after
    decidable_of_iff _ complete_cons.symm

namespace Complete

/-- Nothing is missing from a whole history. -/
theorem closed (complete : Complete history) : Closed history := by
  intro commit member parent named
  obtain ⟨before, after, split⟩ := List.append_of_mem member
  have below := complete.below before commit after split parent named
  rw [split, List.map_append, List.map_cons]
  exact List.mem_append_right _ (List.mem_cons_of_mem _ below)

theorem ordered (complete : Complete history) : Ordered history := by
  induction history with
  | nil => exact List.Pairwise.nil
  | cons commit after ih =>
    obtain ⟨fresh, -, rest⟩ := complete_cons.mp complete
    refine List.pairwise_cons.mpr ⟨?_, ih rest⟩
    intro later member named
    exact fresh (rest.closed later member commit.id named)

/-- No commit is its own parent. -/
theorem id_notMem_parents (complete : Complete history) (member : commit ∈ history) :
    commit.id ∉ commit.parents := by
  obtain ⟨before, after, split⟩ := List.append_of_mem member
  intro own
  have again := complete.below before commit after split commit.id own
  have distinct := complete.distinct
  rw [split, List.map_append, List.map_cons, List.nodup_middle, List.nodup_cons] at distinct
  exact distinct.1 (List.mem_append_right _ again)

/-- A parent is awaited as long as the commits that are there are not closed. -/
theorem exists_awaited_iff (complete : Complete history) (first : loaded <+: history) :
    (∃ id, Awaited loaded id) ↔ ¬ Closed loaded := by
  simp only [Closed, not_forall]
  constructor
  · rintro ⟨id, commit, member, parent, missing | own⟩
    · exact ⟨commit, member, id, parent, missing⟩
    · exact absurd (own ▸ parent) (complete.id_notMem_parents (first.subset member))
  · rintro ⟨commit, member, id, parent, missing⟩
    exact ⟨id, commit, member, parent, Or.inl missing⟩

/-- The last of the first commits is a root if they are closed. -/
theorem parents_eq_nil (complete : Complete (loaded ++ commit :: after))
    (closed : Closed (loaded ++ [commit])) : commit.parents = [] := by
  refine List.eq_nil_iff_forall_not_mem.mpr fun parent named => ?_
  -- A parent would have to come both above and below, and names do not repeat.
  have above := closed commit (by simp) parent named
  have below := complete.below loaded commit after rfl parent named
  have distinct := complete.distinct
  rw [List.append_cons, List.map_append, List.nodup_append'] at distinct
  exact distinct.2.2 above below

/-- Where only the last commit is a root nothing less than the whole history is closed. -/
theorem not_closed_take (complete : Complete history) (rooted : Rooted history) {count : Nat}
    (least : 0 < count) (less : count < history.length) : ¬ Closed (history.take count) := by
  intro closed
  obtain ⟨count, rfl⟩ := Nat.exists_eq_add_one_of_ne_zero (Nat.ne_of_gt least)
  have inside : count < history.length := Nat.lt_of_succ_lt less
  have split : history = history.take count ++ history[count] :: history.drop (count + 1) := by
    rw [← List.drop_eq_getElem_cons inside, List.take_append_drop]
  rw [List.take_succ_eq_append_getElem inside] at closed
  have root := parents_eq_nil (split ▸ complete) closed
  have none := rooted _ _ _ split root
  rw [List.drop_eq_nil_iff] at none
  exact absurd less (Nat.not_lt.mpr none)

end Complete

end Commit

namespace Graph

/-- The first commits of a complete history leave no lane open just if they are closed. -/
theorem openLanes_ofPages_ne_nil_iff {history : List Commit} (complete : Commit.Complete history)
    {pages : List (List Commit)} (first : pages.flatten <+: history) (lineage : Lineage)
    (scope : Scope) :
    (ofPages lineage scope pages).openLanes ≠ [] ↔ ¬ Commit.Closed pages.flatten := by
  rw [← complete.exists_awaited_iff first, ofPages_eq_laid]
  set settings : List Setting :=
    pages.map fun page => ⟨.ofLineage lineage (scope = .all), page, lineage.revision⟩
  have loaded : settings.flatMap Setting.page = pages.flatten := by
    simp [settings, List.flatMap_map, List.flatMap_id']
  have distinct : ((settings.flatMap Setting.page).map Commit.id).Nodup :=
    loaded ▸ complete.distinct.sublist (first.sublist.map Commit.id)
  have ordered : Commit.Ordered (settings.flatMap Setting.page) :=
    loaded ▸ complete.ordered.sublist first.sublist
  simp only [← loaded, ← exists_openLane_iff distinct ordered]
  constructor
  · intro some
    obtain ⟨lane, member⟩ := List.exists_mem_of_ne_nil _ some
    exact ⟨lane.target, lane, member, rfl⟩
  · rintro ⟨id, lane, member, -⟩
    exact List.ne_nil_of_mem member

end Graph

/-! ### Lines -/

namespace TreeLine

/-- Lines show commits in their order, one in a row, and one more line offers more if a condition
holds. -/
def Shows (repository : RepositoryId) (lines : List TreeLine) (commits : List Commit)
    (offer : Prop) : Prop :=
  ∃ rows : List Row, rows.map Row.commit = commits ∧
    (offer ∧ lines = rows.map (row repository) ++ [more repository] ∨
      ¬ offer ∧ lines = rows.map (row repository))

variable {repository : RepositoryId} {lines : List TreeLine} {commits : List Commit} {offer : Prop}

/-- Lines show only one list of commits. -/
theorem Shows.filterMap_commit? (shows : Shows repository lines commits offer) :
    lines.filterMap commit? = commits := by
  obtain ⟨rows, rfl, ⟨-, rfl⟩ | ⟨-, rfl⟩⟩ := shows
  · rw [List.filterMap_append, filterMap_commit?_rows]
    exact List.append_nil _
  · exact filterMap_commit?_rows repository rows

/-- Lines offer more or they do not. -/
theorem Shows.offer_iff (shows : Shows repository lines commits offer) :
    offer ↔ more repository ∈ lines := by
  obtain ⟨rows, -, ⟨offer, rfl⟩ | ⟨missing, rfl⟩⟩ := shows
  · exact iff_of_true offer (by simp)
  · exact iff_of_false missing (by simp)

theorem Shows.congr {other : Prop} (same : offer ↔ other) :
    Shows repository lines commits offer ↔ Shows repository lines commits other := by
  rw [Shows, Shows, same]

/-- What lines show besides what they are known to show. -/
theorem Shows.iff (shows : Shows repository lines commits offer) {others : List Commit}
    {other : Prop} :
    Shows repository lines others other ↔ commits = others ∧ (offer ↔ other) := by
  constructor
  · intro also
    exact ⟨shows.filterMap_commit?.symm.trans also.filterMap_commit?,
      shows.offer_iff.trans also.offer_iff.symm⟩
  · rintro ⟨rfl, same⟩
    exact (Shows.congr same).mp shows

/-- The lines of a graph show its commits, and they offer more while lanes are open. -/
theorem shows_ofRows (repository : RepositoryId) (graph : Graph) :
    Shows repository (ofRows repository graph.rows) (graph.rows.map Row.commit)
      (graph.openLanes ≠ []) := by
  refine ⟨graph.rows, rfl, ?_⟩
  unfold ofRows Graph.openLanes
  cases last : graph.rows.getLast? with
  | none => simp
  | some row => by_cases closed : row.output = [] <;> simp [closed]

variable {history : List Commit}

/-- The lines of the first commits of a complete history show them, and they offer more unless the
commits are closed. -/
theorem shows_ofPages (complete : Commit.Complete history) {pages : List (List Commit)}
    (first : pages.flatten <+: history) (repository : RepositoryId) (lineage : Lineage)
    (scope : Scope) :
    Shows repository (ofRows repository (Graph.ofPages lineage scope pages).rows) pages.flatten
      (¬ Commit.Closed pages.flatten) := by
  have shows := shows_ofRows repository (Graph.ofPages lineage scope pages)
  rw [Graph.map_commit_rows_ofPages] at shows
  exact (Shows.congr (Graph.openLanes_ofPages_ne_nil_iff complete first lineage scope)).mp shows

end TreeLine

end CommitHistory
