/-
# Open lanes

A lane leads to a commit that is still to come. So the lanes that leave the last row count
what is outstanding: for every identifier there are as many of them as parents of that name,
counted from the last commit that bears the name, or from the beginning if there is none.
In a history without repetitions, in which no commit comes after one of its parents, these
are the parents that are not there yet, and the commits that are parents of themselves.

## Main definitions

* `Graph.laid` — the graph of pages, each with a palette and a head of its own.
* `Graph.owed` — what one more commit does to the number of open lanes to an identifier.
* `Commit.Ordered` — no commit comes after one of its parents.
* `Commit.Awaited` — which parents are still to come.

## Main results

* `Graph.count_openLanes_add` — what one commit does to the open lanes.
* `Graph.count_openLanes_of_last`, `Graph.count_openLanes_of_absent` — open lanes count the
  outstanding parents.
* `Graph.exists_openLane_iff` — to which identifiers lanes are open in an orderly history.
-/

import CommitHistory.Proofs.Graph.Paging
import CommitHistory.Tree
import Mathlib.Data.List.Nodup

namespace CommitHistory

/-- No commit comes after one of its parents. -/
def Commit.Ordered (commits : List Commit) : Prop :=
  commits.Pairwise fun earlier later => earlier.id ∉ later.parents

/-- An identifier names a parent that is not there, or a commit that is its own parent. -/
def Commit.Awaited (commits : List Commit) (id : String) : Prop :=
  ∃ commit ∈ commits, id ∈ commit.parents ∧ (id ∉ commits.map Commit.id ∨ commit.id = id)

namespace Lane

/-- Once the first parent has its lane, all other lanes to the commit end. -/
theorem carry_placed (commit : Commit) (color : Option Color) (lanes : List Lane) :
    carry commit color true lanes = lanes.filter (·.target ≠ commit.id) := by
  induction lanes with
  | nil => rfl
  | cons lane rest ih =>
    by_cases here : lane.target = commit.id <;> simp [carry, here, ih]

theorem count_filter_target (id own : String) (lanes : List Lane) :
    ((lanes.filter (·.target ≠ own)).map target).count id =
      if own = id then 0 else (lanes.map target).count id := by
  have mapped : (lanes.filter (·.target ≠ own)).map target =
      (lanes.map target).filter (· ≠ own) := by
    rw [List.filter_map]
    rfl
  rw [mapped]
  by_cases same : own = id
  · rw [if_pos same, List.count_eq_zero]
    intro member
    have other := (List.mem_filter.mp member).2
    simp [same] at other
  · rw [if_neg same]
    exact List.count_filter (by simpa using Ne.symm same)

/-- All lanes to a commit end, and if there are any, one lane goes on to its first parent. -/
theorem count_carry (id : String) (commit : Commit) (color : Option Color) (lanes : List Lane) :
    ((carry commit color false lanes).map target).count id =
      (if commit.id = id then 0 else (lanes.map target).count id) +
        if lanes.any (·.target = commit.id) then (commit.parents.take 1).count id else 0 := by
  induction lanes with
  | nil => simp [carry]
  | cons lane rest ih =>
    by_cases here : lane.target = commit.id
    · cases parents : commit.parents with
      | nil =>
        rw [parents] at ih
        by_cases own : commit.id = id <;> simp [carry, here, parents, ih, own]
      | cons parent further =>
        have others := count_filter_target id commit.id rest
        rw [← carry_placed commit color] at others
        by_cases own : commit.id = id
        · simp [carry, here, parents, own, List.count_cons] at others ⊢
          exact others
        · simp [carry, here, parents, own, List.count_cons] at others ⊢
          omega
    · have apart : lane.target ≠ commit.id := here
      by_cases own : commit.id = id
      · subst own
        simp [carry, here, ih]
      · simp [carry, here, ih, own, List.count_cons]
        omega

end Lane

namespace Graph

variable {settings : List Setting} {graph : Graph} {commits before after : List Commit}
  {commit : Commit} {id : String}

/-- The graph of pages that are laid one below the other, each with a palette and a head of its
own. -/
def laid (settings : List Setting) : Graph :=
  settings.foldl (fun graph setting => graph.extend setting.page setting.palette setting.head)
    empty

/-- What one more commit does to the number of open lanes to an identifier: if the commit bears
the identifier all of them end, and then its own parents of that name are added. -/
def owed (id : String) (count : Nat) (commit : Commit) : Nat :=
  (if commit.id = id then 0 else count) + commit.parents.count id

theorem laid_concat (settings : List Setting) (setting : Setting) :
    laid (settings ++ [setting]) =
      (laid settings).extend setting.page setting.palette setting.head := by
  simp [laid, List.foldl_append]

/-- Pages of one lineage and one scope are laid with the palette and the head of the lineage. -/
theorem ofPages_eq_laid (lineage : Lineage) (scope : Scope) (pages : List (List Commit)) :
    ofPages lineage scope pages =
      laid (pages.map fun page =>
        ⟨.ofLineage lineage (scope = .all), page, lineage.revision⟩) := by
  rw [ofPages, laid, List.foldl_map]

/-- The rows show the commits of the pages in their order. -/
theorem map_commit_rows_laid (settings : List Setting) :
    (laid settings).rows.map Row.commit = settings.flatMap Setting.page := by
  induction settings using List.reverseRecOn with
  | nil => rfl
  | append_singleton settings setting ih =>
    obtain ⟨below, rows, commits⟩ := exists_rows_extend (laid settings) setting.page
      setting.palette setting.head
    rw [laid_concat, rows, List.map_append, ih, commits]
    simp

/-! ### What one commit does -/

theorem count_openLanes_add (setting : Setting) (graph : Graph) (commit : Commit) (id : String) :
    ((graph.add setting commit).openLanes.map Lane.target).count id =
      owed id ((graph.openLanes.map Lane.target).count id) commit := by
  rw [openLanes_add]
  simp only [layRow, List.map_append, List.count_append, Lane.map_target_openEach,
    Setting.map_fst_opened, Lane.count_carry, owed]
  -- The first parent goes on in the lane of the commit, or it opens one.
  have parents : commit.parents.count id =
      (commit.parents.take 1).count id + commit.parents.tail.count id := by
    cases commit.parents with
    | nil => rfl
    | cons first further => simp [List.count_cons]; omega
  by_cases onLane : graph.openLanes.any (·.target = commit.id)
  · rw [if_pos onLane, if_pos onLane]
    omega
  · rw [if_neg onLane, if_neg onLane, Nat.add_zero]

theorem count_openLanes_foldl (setting : Setting) (graph : Graph) (commits : List Commit)
    (id : String) :
    ((commits.foldl (add setting) graph).openLanes.map Lane.target).count id =
      commits.foldl (owed id) ((graph.openLanes.map Lane.target).count id) := by
  induction commits generalizing graph with
  | nil => rfl
  | cons commit rest ih => rw [List.foldl_cons, ih, count_openLanes_add, List.foldl_cons]

/-- What pages do to the open lanes depends neither on the cuts between them nor on palettes and
heads. -/
theorem count_openLanes_laid (settings : List Setting) (id : String) :
    ((laid settings).openLanes.map Lane.target).count id =
      (settings.flatMap Setting.page).foldl (owed id) 0 := by
  have start : ((empty.openLanes).map Lane.target).count id = 0 := rfl
  rw [laid, ← start]
  generalize empty = graph
  induction settings generalizing graph with
  | nil => rfl
  | cons setting rest ih =>
    rw [List.foldl_cons, ih, extend_eq_foldl, count_openLanes_foldl, List.flatMap_cons,
      List.foldl_append]

/-! ### What is outstanding -/

theorem foldl_owed_of_absent (absent : ∀ commit ∈ commits, commit.id ≠ id) (count : Nat) :
    commits.foldl (owed id) count = count + (commits.flatMap Commit.parents).count id := by
  induction commits generalizing count with
  | nil => rfl
  | cons commit rest ih =>
    obtain ⟨other, absent⟩ := List.forall_mem_cons.mp absent
    rw [List.foldl_cons, ih absent, owed, if_neg other, List.flatMap_cons, List.count_append]
    omega

/-- From the last commit of a name on every parent of that name has a lane. -/
theorem count_openLanes_of_last
    (split : settings.flatMap Setting.page = before ++ commit :: after) (own : commit.id = id)
    (last : ∀ later ∈ after, later.id ≠ id) :
    ((laid settings).openLanes.map Lane.target).count id =
      ((commit :: after).flatMap Commit.parents).count id := by
  rw [count_openLanes_laid, split, List.foldl_append, List.foldl_cons, foldl_owed_of_absent last,
    owed, if_pos own, List.flatMap_cons, List.count_append]
  omega

/-- Without a commit of a name every parent of that name has a lane. -/
theorem count_openLanes_of_absent
    (absent : ∀ commit ∈ settings.flatMap Setting.page, commit.id ≠ id) :
    ((laid settings).openLanes.map Lane.target).count id =
      ((settings.flatMap Setting.page).flatMap Commit.parents).count id := by
  rw [count_openLanes_laid, foldl_owed_of_absent absent, Nat.zero_add]

/-! ### Orderly histories -/

/-- Where a commit stands that no other one shares its name with. -/
theorem exists_split_of_distinct (distinct : (commits.map Commit.id).Nodup)
    (known : id ∈ commits.map Commit.id) :
    ∃ before commit after, commits = before ++ commit :: after ∧ commit.id = id ∧
      ∀ other ∈ before ++ after, other.id ≠ id := by
  obtain ⟨commit, member, own⟩ := List.mem_map.mp known
  obtain ⟨before, after, split⟩ := List.append_of_mem member
  refine ⟨before, commit, after, split, own, ?_⟩
  intro other here same
  rw [split, List.map_append, List.map_cons, List.nodup_middle, List.nodup_cons,
    ← List.map_append] at distinct
  apply distinct.1
  rw [own, ← same]
  exact List.mem_map_of_mem here

/-- In an orderly history lanes are open to the parents that are not there, and to the commits that
are parents of themselves. -/
theorem exists_openLane_iff (distinct : ((settings.flatMap Setting.page).map Commit.id).Nodup)
    (ordered : Commit.Ordered (settings.flatMap Setting.page)) :
    (∃ lane ∈ (laid settings).openLanes, lane.target = id) ↔
      Commit.Awaited (settings.flatMap Setting.page) id := by
  have counted : (∃ lane ∈ (laid settings).openLanes, lane.target = id) ↔
      0 < ((laid settings).openLanes.map Lane.target).count id := by
    rw [List.count_pos_iff, List.mem_map]
  rw [counted]
  by_cases known : id ∈ (settings.flatMap Setting.page).map Commit.id
  · obtain ⟨before, commit, after, split, own, unique⟩ := exists_split_of_distinct distinct known
    have last : ∀ other ∈ after, other.id ≠ id := fun other here =>
      unique other (List.mem_append_right before here)
    -- No later commit has this one as a parent.
    rw [split] at ordered
    have later := (List.pairwise_cons.mp (List.pairwise_append.mp ordered).2.1).1
    rw [count_openLanes_of_last split own last, List.count_pos_iff, List.mem_flatMap]
    constructor
    · rintro ⟨other, here, parent⟩
      rcases List.mem_cons.mp here with rfl | here
      · have member : other ∈ settings.flatMap Setting.page := by simp [split]
        exact ⟨other, member, parent, Or.inr own⟩
      · exact absurd (own ▸ parent) (later other here)
    · rintro ⟨other, here, parent, unknown | same⟩
      · exact absurd known unknown
      · have only : other = commit := by
          by_contra different
          apply unique other _ same
          rw [split] at here
          simpa [different] using here
        exact ⟨commit, List.mem_cons_self, only ▸ parent⟩
  · have absent : ∀ commit ∈ settings.flatMap Setting.page, commit.id ≠ id :=
      fun commit member same => known (same ▸ List.mem_map_of_mem member)
    rw [count_openLanes_of_absent absent, List.count_pos_iff, List.mem_flatMap]
    constructor
    · rintro ⟨commit, member, parent⟩
      exact ⟨commit, member, parent, Or.inl known⟩
    · rintro ⟨commit, member, parent, -⟩
      exact ⟨commit, member, parent⟩

end Graph

/-! ### The line that offers more -/

namespace TreeLine

/-- The commit that a line shows. -/
def commit? : TreeLine → Option Commit
  | .row _ shown => some shown.commit
  | .more _ => none

/-- All lines that show the rows of a repository belong to it. -/
theorem repository_of_mem_ofRows {repository : RepositoryId} {rows : List Row} {line : TreeLine}
    (member : line ∈ ofRows repository rows) : line.repository = repository := by
  have own {line : TreeLine} (member : line ∈ rows.map (row repository)) :
      line.repository = repository := by
    obtain ⟨shown, -, rfl⟩ := List.mem_map.mp member
    rfl
  unfold ofRows at member
  split at member
  next => exact own member
  next =>
    split at member
    next => exact own member
    next =>
      obtain first | last := List.mem_append.mp member
      · exact own first
      · rw [List.mem_singleton.mp last]
        rfl

theorem filterMap_commit?_rows (repository : RepositoryId) (rows : List Row) :
    (rows.map (row repository)).filterMap commit? = rows.map Row.commit := by
  rw [List.filterMap_map, ← List.filterMap_eq_map]
  rfl

/-- The lines of rows show the commits of the rows. -/
theorem filterMap_commit?_ofRows (repository : RepositoryId) (rows : List Row) :
    (ofRows repository rows).filterMap commit? = rows.map Row.commit := by
  unfold ofRows
  split
  next => exact filterMap_commit?_rows repository rows
  next =>
    split
    · exact filterMap_commit?_rows repository rows
    · rw [List.filterMap_append, filterMap_commit?_rows]
      exact List.append_nil _

/-- The lines of a graph end with an offer of more as long as lanes are open. -/
theorem getLast?_ofRows_eq_more_iff (repository : RepositoryId) (graph : Graph) :
    (∃ other, (ofRows repository graph.rows).getLast? = some (.more other)) ↔
      graph.openLanes ≠ [] := by
  unfold ofRows Graph.openLanes
  cases last : graph.rows.getLast? with
  | none => simp
  | some row => by_cases closed : row.output = [] <;> simp [closed]

/-- In an orderly history more is offered as long as a parent is not there, or is the commit
itself. -/
theorem offersMore_iff {settings : List Graph.Setting}
    (distinct : ((settings.flatMap Graph.Setting.page).map Commit.id).Nodup)
    (ordered : Commit.Ordered (settings.flatMap Graph.Setting.page)) (repository : RepositoryId) :
    (∃ other, (ofRows repository (Graph.laid settings).rows).getLast? = some (.more other)) ↔
      ∃ id, Commit.Awaited (settings.flatMap Graph.Setting.page) id := by
  have lanes (id : String) : (∃ lane ∈ (Graph.laid settings).openLanes, lane.target = id) ↔
      Commit.Awaited (settings.flatMap Graph.Setting.page) id :=
    Graph.exists_openLane_iff distinct ordered
  rw [getLast?_ofRows_eq_more_iff]
  constructor
  · intro some
    obtain ⟨lane, member⟩ := List.exists_mem_of_ne_nil _ some
    exact ⟨lane.target, (lanes lane.target).mp ⟨lane, member, rfl⟩⟩
  · rintro ⟨id, awaited⟩
    obtain ⟨lane, member, -⟩ := (lanes id).mpr awaited
    exact List.ne_nil_of_mem member

end TreeLine

end CommitHistory
