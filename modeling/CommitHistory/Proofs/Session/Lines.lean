/-
# What the lines show

The lines of the tree are the rows that a fetch hands out, and those were laid from pages of
one lineage and one scope: they are cached, and then all is known about where they come from,
or the fetch has just laid the last page itself. So what holds of laid pages holds of the
lines of every search, in particular that more is offered as long as a parent is missing.

## Main definitions

* `Sourced`, `SourcedLines` — rows that were laid from pages of one scope, and their lines.

## Main results

* `Session.Accounted.sourced_of_advance` — the rows that a fetch hands out are sourced.
* `Session.sourcedLines_of_play` — so are the lines of every search.
* `Session.openLanes_count_outstanding` — open lanes count the parents that are outstanding,
  and the lines of a search offer more as long as there are any.
* `Session.not_openLane_iff_missing` — a commit that is its own parent keeps its lane open.
-/

import CommitHistory.Proofs.Graph.OpenLanes
import CommitHistory.Proofs.Session.Move
import CommitHistory.Proofs.Session.Provenance

namespace CommitHistory.Session

variable {session next : Session} {move : Move} {moves : List Move} {history : List Event}
  {id : RepositoryId} {pageSize : Nat} {scope : Scope} {rows : List Row}

/-- There are no rows, or they were laid from pages that were asked for one below the other, all for
one lineage and the given scope. -/
def Sourced (history : List Event) (id : RepositoryId) (pageSize : Nat) (scope : Scope)
    (rows : List Row) : Prop :=
  rows = [] ∨ ∃ lineage graph, Grounded history id pageSize lineage scope graph ∧ rows = graph.rows

theorem Sourced.append (sourced : Sourced history id pageSize scope rows) (later : List Event) :
    Sourced (history ++ later) id pageSize scope rows := by
  obtain none | ⟨lineage, graph, grounded, same⟩ := sourced
  · exact Or.inl none
  · exact Or.inr ⟨lineage, graph, grounded.append later, same⟩

/-- Sourced rows are the rows of a graph of pages. -/
theorem Sourced.exists_settings (sourced : Sourced history id pageSize scope rows) :
    ∃ settings, rows = (Graph.laid settings).rows := by
  obtain rfl | ⟨lineage, graph, ⟨pages, -, rfl, -⟩, rfl⟩ := sourced
  · exact ⟨[], rfl⟩
  · exact ⟨_, congrArg Graph.rows (Graph.ofPages_eq_laid lineage scope pages)⟩

/-! ### Rows that are handed out -/

/-- A fetch hands out no rows, the rows that are cached, or the rows with its own page. -/
theorem Fetch.rows_of_advance {task : Nat} {repository : Repository} {world world' : World}
    {stage : Fetch} {reply : Option Reply}
    (advanced : stage.advance task repository world reply = some (world', .done (.ok rows))) :
    rows = [] ∨ world.store.fresh? repository.id = some rows ∨
      ∃ gate ticket lineage page, stage = .keep gate ticket lineage page ∧
        rows = (ticket.grown lineage page).rows := by
  unfold advance at advanced
  split at advanced
  next =>
    split at advanced
    next => cases advanced; exact Or.inl rfl
    next =>
      split at advanced <;> cases advanced
      next found => exact Or.inr (Or.inl found)
  next => cases advanced
  next =>
    obtain ⟨-, entered⟩ := Prod.mk.inj (Option.some.inj advanced)
    split at entered <;> cases entered
  next => split at advanced <;> cases advanced
  next =>
    split at advanced <;> cases advanced
    next found => exact Or.inr (Or.inl found)
  iterate 6
    next => cases advanced
  next => split at advanced <;> cases advanced <;> exact Or.inl rfl
  next gate ticket lineage page =>
    simp only at advanced
    split at advanced <;> cases advanced <;>
      exact Or.inr (Or.inr ⟨gate, ticket, lineage, page, rfl, rfl⟩)
  next => cases advanced

/-- The rows that a fetch hands out were laid from pages of the scope that histories have now, or of
the scope that the fetch has noted. -/
theorem Accounted.sourced_of_advance {task : Nat} {repository : Repository} {world' : World}
    {stage : Fetch} {reply : Option Reply}
    (accounted : session.Accounted history repository.id pageSize 0)
    (under : session.fetchOf? task = some (repository, stage))
    (advanced : stage.advance task repository session.world reply =
      some (world', .done (.ok rows))) :
    ∃ scope, (scope = session.world.store.scope ∨
        ∃ ticket, stage.ticket? = some ticket ∧ ticket.scope = scope) ∧
      Sourced history repository.id pageSize scope rows := by
  rcases Fetch.rows_of_advance advanced with none | fresh | ⟨gate, ticket, lineage, page, rfl, laid⟩
  · exact ⟨session.world.store.scope, Or.inl rfl, Or.inl none⟩
  · -- Whatever is cached can be accounted for.
    obtain ⟨cached, found, rfl⟩ := Option.map_eq_some_iff.mp fresh
    have held := (Option.filter_eq_some_iff.mp found).1
    have grounded := accounted.stored cached.lineage cached.graph (Store.basis?_of_cached held)
    exact ⟨session.world.store.scope, Or.inl rfl,
      Or.inr ⟨cached.lineage, cached.graph, grounded, rfl⟩⟩
  · have backed := accounted.fetches task repository _ under rfl
    have noted := backed.noted ticket rfl (Nat.zero_le _)
    have served := backed.answered gate ticket lineage page rfl (Nat.zero_le _)
    exact ⟨ticket.scope, Or.inr ⟨ticket, rfl, rfl⟩, Or.inr ⟨lineage, _, noted.grown served, laid⟩⟩

/-! ### Lines of a search -/

/-- A search finds no lines, or those of the rows that its fetch hands out. -/
theorem Children.lines_of_advance {task : Nat} {world world' : World} {stage : Children}
    {reply : Option Reply} {lines : List TreeLine}
    (advanced : stage.advance task world reply = some (world', .done (.ok lines))) :
    lines = [] ∨ ∃ repository fetch rows, stage = .fetching repository fetch ∧
      fetch.advance task repository world reply = some (world', .done (.ok rows)) ∧
      lines = TreeLine.ofRows repository.id rows := by
  cases stage with
  | select =>
    cases reply with
    | some _ => cases advanced
    | none =>
      rw [advance] at advanced
      split at advanced <;> cases advanced
      exact Or.inl rfl
  | fetching repository fetch =>
    obtain ⟨⟨_, fetch'⟩, stepped, made⟩ := Option.map_eq_some_iff.mp advanced
    obtain ⟨rfl, done⟩ := Prod.mk.inj made
    cases fetch' with
    | done result =>
      cases result with
      | error fault => cases done
      | ok rows =>
        cases done
        exact Or.inr ⟨repository, fetch, rows, rfl, stepped, rfl⟩
    | _ => cases done
  | done _ => cases advanced

theorem Activity.eq_children_of_result? {activity : Activity} {lines : List TreeLine}
    (ended : activity.result? = some (.lines (.ok lines))) :
    activity = .children (.done (.ok lines)) := by
  unfold result? at ended
  split at ended <;> cases ended
  rfl

/-- The lines are those of sourced rows. -/
def SourcedLines (history : List Event) (pageSize : Nat) (lines : List TreeLine) : Prop :=
  ∃ id scope rows, lines = TreeLine.ofRows id rows ∧ Sourced history id pageSize scope rows

theorem SourcedLines.append {lines : List TreeLine} (sourced : SourcedLines history pageSize lines)
    (later : List Event) : SourcedLines (history ++ later) pageSize lines := by
  obtain ⟨id, scope, rows, same, sourced⟩ := sourced
  exact ⟨id, scope, rows, same, sourced.append later⟩

/-- The lines that a search finds are those of sourced rows. -/
theorem sourcedLines_of_advance {task : Nat} {world' : World} {stage : Children}
    {reply : Option Reply} {lines : List TreeLine}
    (accounted : ∀ id, session.Accounted history id pageSize 0)
    (held : session.activities[task]? = some (.children stage))
    (advanced : stage.advance task session.world reply = some (world', .done (.ok lines))) :
    SourcedLines history pageSize lines := by
  obtain none | ⟨repository, fetch, rows, rfl, fetched, made⟩ := Children.lines_of_advance advanced
  · exact ⟨⟨""⟩, session.world.store.scope, [], none, Or.inl rfl⟩
  · have under : session.fetchOf? task = some (repository, fetch) := by
      rw [fetchOf?, held]
      cases fetch <;> first | rfl | cases fetched
    obtain ⟨scope, -, sourced⟩ := (accounted repository.id).sourced_of_advance under fetched
    exact ⟨repository.id, scope, rows, made, sourced⟩

/-- In every run the lines of every search are those of sourced rows. -/
theorem sourcedLines_of_play {task : Nat} {lines : List TreeLine}
    (played : (new pageSize scope).play moves = some session)
    (found : session.activities[task]? = some (.children (.done (.ok lines)))) :
    SourcedLines ((new pageSize scope).history moves) (World.clampPageSize pageSize) lines := by
  refine play_induction (fun moves session => ∀ task lines,
    session.activities[task]? = some (.children (.done (.ok lines))) →
      SourcedLines ((new pageSize scope).history moves) (World.clampPageSize pageSize) lines)
    (fun task lines held => ?_) (fun moves middle move next before known moved => ?_)
    played task lines found
  · simp [new] at held
  intro task lines held
  rw [history_concat before]
  refine SourcedLines.append ?_ _
  obtain stayed | ⟨call, begun⟩ | ⟨reply, activity, was, stepped⟩ :=
    activity_of_move moved held
  · exact known task lines stayed
  · cases call <;> cases begun
  · cases activity with
    | children stage =>
      obtain ⟨_, advanced, same⟩ := exists_of_map_eq_some stepped
      cases same
      have accounted (id : RepositoryId) := (Accounted.new id pageSize scope).of_play before
      exact sourcedLines_of_advance accounted was advanced
    | edit _ | ask _ =>
      cases reply <;> simp [Activity.advance] at stepped
    | edited | told _ => cases stepped
    | _ =>
      obtain ⟨_, -, same⟩ := exists_of_map_eq_some stepped
      cases same

/-! ### What is outstanding -/

/-- The lanes that leave the last row count the parents that are outstanding, whatever the pages,
the palettes and the heads are. In an orderly history they lead to the parents that are awaited,
and the lines of a search end with an offer of more as long as there are any. -/
theorem openLanes_count_outstanding :
    (∀ (settings : List Graph.Setting) (id : String),
      (∀ before commit after, settings.flatMap Graph.Setting.page = before ++ commit :: after →
        commit.id = id → (∀ later ∈ after, later.id ≠ id) →
        ((Graph.laid settings).openLanes.map Lane.target).count id =
          ((commit :: after).flatMap Commit.parents).count id) ∧
      ((∀ commit ∈ settings.flatMap Graph.Setting.page, commit.id ≠ id) →
        ((Graph.laid settings).openLanes.map Lane.target).count id =
          ((settings.flatMap Graph.Setting.page).flatMap Commit.parents).count id)) ∧
    (∀ settings : List Graph.Setting,
      ((settings.flatMap Graph.Setting.page).map Commit.id).Nodup →
      Commit.Ordered (settings.flatMap Graph.Setting.page) →
      ∀ id, (∃ lane ∈ (Graph.laid settings).openLanes, lane.target = id) ↔
        Commit.Awaited (settings.flatMap Graph.Setting.page) id) ∧
    ∀ (pageSize : Nat) (scope : Scope) (moves : List Move) (session : Session) (task : Nat)
      (lines : List TreeLine), (new pageSize scope).play moves = some session →
      session.result? task = some (.lines (.ok lines)) →
      ((lines.filterMap TreeLine.commit?).map Commit.id).Nodup →
      Commit.Ordered (lines.filterMap TreeLine.commit?) →
      ((∃ repository, lines.getLast? = some (.more repository)) ↔
        ∃ id, Commit.Awaited (lines.filterMap TreeLine.commit?) id) := by
  refine ⟨fun settings id => ⟨fun before commit after split own last => ?_, fun absent => ?_⟩,
    fun settings distinct ordered id => ?_,
    fun pageSize scope moves session task lines played result distinct ordered => ?_⟩
  · exact Graph.count_openLanes_of_last split own last
  · exact Graph.count_openLanes_of_absent absent
  · exact Graph.exists_openLane_iff distinct ordered
  · obtain ⟨activity, held, ended⟩ := Option.bind_eq_some_iff.mp result
    obtain rfl := Activity.eq_children_of_result? ended
    obtain ⟨id, scope', rows, rfl, sourced⟩ := sourcedLines_of_play played held
    obtain ⟨settings, rfl⟩ := sourced.exists_settings
    rw [TreeLine.filterMap_commit?_ofRows, Graph.map_commit_rows_laid] at distinct ordered ⊢
    exact TreeLine.offersMore_iff distinct ordered id

/-- The selected repository is asked for a page, and its lines are shown. -/
def shownRun (page : List Commit) : List Move :=
  [.start (.edit (.add sampleRepository)), .advance 0 none,
    .start (.edit (.activate (some ⟨"r"⟩))), .advance 1 none, .start .children] ++
    (List.replicate 6 none ++ [some (Reply.lineage (.ok (some sampleLineage)))]).map (.advance 2) ++
    storing 2 page

/-- A merge and one of the branches that meet in it. -/
def mergedPage : List Commit :=
  [Graph.bareCommit "m" ["a", "f"] [], Graph.bareCommit "f" ["a"] []]

theorem openLanes_count_outstanding_mergedPage :
    ((Graph.laid [⟨.empty, mergedPage, none⟩]).openLanes.map Lane.target).count "a" = 2 ∧
      ((∃ lane ∈ (Graph.laid [⟨.empty, mergedPage, none⟩]).openLanes, lane.target = "a") ↔
        Commit.Awaited mergedPage "a") ∧
      ∃ lines, (sampleAfter (shownRun mergedPage)).result? 2 = some (.lines (.ok lines)) ∧
        ((∃ repository, lines.getLast? = some (.more repository)) ↔
          ∃ id, Commit.Awaited mergedPage id) := by
  have distinct : (mergedPage.map Commit.id).Nodup := by decide
  have ordered : Commit.Ordered mergedPage := by
    unfold Commit.Ordered
    decide
  obtain ⟨counted, lanes, offered⟩ := openLanes_count_outstanding
  have played : (new 1 .lineage).play (shownRun mergedPage) =
      some (sampleAfter (shownRun mergedPage)) := rfl
  refine ⟨?_, ?_, _, rfl, ?_⟩
  · exact (counted [⟨.empty, mergedPage, none⟩] "a").2 (by decide)
  · exact lanes [⟨.empty, mergedPage, none⟩] distinct ordered "a"
  · exact offered 1 .lineage _ _ 2 _ played rfl distinct ordered

/-- A commit that is its own parent is there, and still its lane is open and more is offered. -/
theorem not_openLane_iff_missing :
    (¬ ∀ settings : List Graph.Setting,
      ((settings.flatMap Graph.Setting.page).map Commit.id).Nodup →
      Commit.Ordered (settings.flatMap Graph.Setting.page) →
      ∀ id, (∃ lane ∈ (Graph.laid settings).openLanes, lane.target = id) ↔
        id ∈ (settings.flatMap Graph.Setting.page).flatMap Commit.parents ∧
          id ∉ (settings.flatMap Graph.Setting.page).map Commit.id) ∧
    ¬ ∀ (moves : List Move) (session : Session) (task : Nat) (lines : List TreeLine),
      (new 1 .lineage).play moves = some session →
      session.result? task = some (.lines (.ok lines)) →
      ((lines.filterMap TreeLine.commit?).map Commit.id).Nodup →
      Commit.Ordered (lines.filterMap TreeLine.commit?) →
      ((∃ repository, lines.getLast? = some (.more repository)) ↔
        ∃ parent ∈ (lines.filterMap TreeLine.commit?).flatMap Commit.parents,
          parent ∉ (lines.filterMap TreeLine.commit?).map Commit.id) := by
  let page := [Graph.bareCommit "a" ["a"] []]
  have ordered : Commit.Ordered page := by
    unfold Commit.Ordered
    decide
  constructor
  · intro always
    obtain ⟨-, there⟩ := (always [⟨.empty, page, none⟩] (by decide) ordered "a").mp (by decide)
    exact there (by decide)
  · intro always
    have offered := always (shownRun page) (sampleAfter (shownRun page)) 2 _ rfl rfl
      (show (page.map Commit.id).Nodup by decide) ordered
    obtain ⟨parent, member, missing⟩ := offered.mp ⟨⟨"r"⟩, by decide⟩
    have own : parent ∈ ["a"] := member
    exact missing own

end CommitHistory.Session
