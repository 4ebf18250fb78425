/-
# One view at a time

Whoever shows lines puts up the rows of one graph, with at most one offer of more below them,
and writes twice: first the lines and then the fault. Only one activity at a time is between
these two writes. So at any time the lines form one view of one history, and as soon as nobody
is between the writes a fault stands above an empty tree only.

## Main definitions

* `TreeLine.row?`, `TreeLine.View` — the rows of lines, and lines that form one view.
* `TreeLine.OfGraph` — the lines of some graph.
* `Session.Framed` — what is shown, and what is about to be.

## Main results

* `TreeLine.OfGraph.view` — the lines of a graph form one view.
* `Session.Framed.of_move` — moves keep it.
* `Session.view_of_play` — in every run the lines form one view, and a fault stands alone.
-/

import CommitHistory.Proofs.Graph.Geometry
import CommitHistory.Proofs.Session.Current

namespace CommitHistory

/-! ### Lines that form one view -/

namespace TreeLine

/-- The row that a line shows. -/
def row? : TreeLine → Option Row
  | .row _ shown => some shown
  | .more _ => none

/-- Lines form one view of a history. -/
structure View (lines : List TreeLine) : Prop where
  /-- All lines belong to one repository. -/
  own : ∃ repository, ∀ line ∈ lines, line.repository = repository
  /-- An offer of more is the last line, so there is one at most. -/
  last : ∀ i repository, lines[i]? = some (.more repository) → i + 1 = lines.length
  /-- More is offered as long as lanes leave the last row. -/
  offer : (∃ repository, .more repository ∈ lines) ↔
    ∃ row, (lines.filterMap row?).getLast? = some row ∧ row.output ≠ []
  /-- No lane leads into the first row. -/
  first : ∀ row, (lines.filterMap row?)[0]? = some row → row.input = []
  /-- Every further row continues the lanes of the row above it. -/
  next : ∀ i row below, (lines.filterMap row?)[i]? = some row →
    (lines.filterMap row?)[i + 1]? = some below → below.input = row.output

/-- Lines are those of a graph. -/
def OfGraph (lines : List TreeLine) : Prop :=
  ∃ repository settings, lines = ofRows repository (Graph.laid settings).rows

variable {repository : RepositoryId} {rows : List Row} {lines : List TreeLine}

theorem filterMap_row?_rows (repository : RepositoryId) (rows : List Row) :
    (rows.map (row repository)).filterMap row? = rows := by
  rw [List.filterMap_map]
  exact List.filterMap_some

/-- The lines of rows are one for each row, and an offer of more if lanes leave the last one. -/
theorem ofRows_cases (repository : RepositoryId) (rows : List Row) :
    (ofRows repository rows = rows.map (row repository) ∧
        ∀ row, rows.getLast? = some row → row.output = []) ∨
      ofRows repository rows = rows.map (row repository) ++ [.more repository] ∧
        ∃ row, rows.getLast? = some row ∧ row.output ≠ [] := by
  unfold ofRows
  split
  next none => exact Or.inl ⟨rfl, by simp [none]⟩
  next last found =>
    split
    next closed =>
      refine Or.inl ⟨rfl, fun row held => ?_⟩
      obtain rfl := Option.some.inj (found.symm.trans held)
      exact List.isEmpty_iff.mp closed
    next opened =>
      refine Or.inr ⟨rfl, last, found, fun none => opened ?_⟩
      rw [none]
      rfl

theorem more_notMem_rows {other : RepositoryId} : .more other ∉ rows.map (row repository) := by
  intro member
  obtain ⟨_, -, same⟩ := List.mem_map.mp member
  cases same

/-- The rows can be read off the lines again. -/
theorem filterMap_row?_ofRows (repository : RepositoryId) (rows : List Row) :
    (ofRows repository rows).filterMap row? = rows := by
  obtain ⟨same, -⟩ | ⟨same, -⟩ := ofRows_cases repository rows
  · rw [same, filterMap_row?_rows]
  · rw [same, List.filterMap_append, filterMap_row?_rows]
    exact List.append_nil _

/-- An offer of more is made below a last row that lanes leave, and nowhere else. -/
theorem getElem?_ofRows_eq_more {i : Nat} {other : RepositoryId}
    (here : (ofRows repository rows)[i]? = some (.more other)) :
    i + 1 = (ofRows repository rows).length := by
  obtain ⟨same, -⟩ | ⟨same, -⟩ := ofRows_cases repository rows
  · rw [same] at here
    exact absurd (List.mem_of_getElem? here) more_notMem_rows
  · rw [same] at here ⊢
    by_contra inside
    obtain ⟨bound, -⟩ := List.getElem?_eq_some_iff.mp here
    rw [List.length_append, List.length_singleton] at bound inside
    rw [List.getElem?_append_left (by omega)] at here
    exact more_notMem_rows (List.mem_of_getElem? here)

theorem exists_more_mem_ofRows_iff :
    (∃ other, .more other ∈ ofRows repository rows) ↔
      ∃ row, rows.getLast? = some row ∧ row.output ≠ [] := by
  obtain ⟨same, closed⟩ | ⟨same, opened⟩ := ofRows_cases repository rows
  · rw [same]
    constructor
    · rintro ⟨other, member⟩
      exact absurd member more_notMem_rows
    · rintro ⟨row, last, lanes⟩
      exact absurd (closed row last) lanes
  · rw [same]
    exact ⟨fun _ => opened, fun _ => ⟨repository, List.mem_append_right _ List.mem_cons_self⟩⟩

/-- The lines of a graph form one view. -/
theorem OfGraph.view (drawn : OfGraph lines) : View lines := by
  obtain ⟨repository, settings, rfl⟩ := drawn
  constructor
  case own => exact ⟨repository, fun line member => repository_of_mem_ofRows member⟩
  case last => exact fun i other here => getElem?_ofRows_eq_more here
  case offer =>
    rw [filterMap_row?_ofRows]
    exact exists_more_mem_ofRows_iff
  case first =>
    rw [filterMap_row?_ofRows]
    exact fun row here => Graph.input_first_laid here
  case next =>
    rw [filterMap_row?_ofRows]
    exact fun i row below here next => Graph.input_next_laid here next

theorem ofGraph_nil : OfGraph [] := ⟨⟨""⟩, [], rfl⟩

end TreeLine

namespace Session

open TreeLine (OfGraph View)

variable {session next : Session} {move : Move} {moves : List Move} {history : List Event}
  {pageSize : Nat} {scope : Scope}

theorem SourcedLines.ofGraph {lines : List TreeLine}
    (sourced : SourcedLines history pageSize lines) : OfGraph lines := by
  obtain ⟨id, scope, rows, rfl, sourced⟩ := sourced
  obtain ⟨settings, rfl⟩ := sourced.exists_settings
  exact ⟨id, settings, rfl⟩

/-! ### What is shown, and what is about to be -/

/-- What is shown are the lines of a graph, and so are those that are about to be put up. Lines and
fault are not replaced at once: whoever has put up lines drops the fault next, and whoever puts up
a fault has taken the lines away. -/
structure Framed (session : Session) : Prop where
  drawn : OfGraph session.world.display.lines
  drafted : ∀ task lines, session.showingOf? task = some (.putLines lines) → OfGraph lines
  emptied : ∀ task fault, session.showingOf? task = some (.putFault fault) →
    session.world.display.lines = []
  alone : session.world.display.fault ≠ none → session.world.display.lines = [] ∨
    ∃ task, session.showingOf? task = some .dropFault

/-- The lines that are read are those of a graph. -/
theorem ofGraph_of_read {task : Nat} {reply : Option Reply} {world' : World}
    {children children' : Children} {lines : List TreeLine}
    (accounted : ∀ id, session.Accounted history id pageSize 0)
    (under : session.showingOf? task = some (.reading children))
    (advanced : children.advance task session.world reply = some (world', children'))
    (read : Showing.ofChildren children' = .putLines lines) : OfGraph lines := by
  have found : children' = .done (.ok lines) := by
    unfold Showing.ofChildren at read
    split at read <;> cases read
    rfl
  subst found
  obtain none | ⟨repository, fetch, rows, rfl, fetched, made⟩ := Children.lines_of_advance advanced
  · exact none ▸ TreeLine.ofGraph_nil
  · have ongoing : session.fetchOf? task = some (repository, fetch) := by
      rw [fetchOf?_of_reading under]
      cases fetch <;> first | rfl | cases fetched
    obtain ⟨scope, -, sourced⟩ := (accounted repository.id).sourced_of_advance ongoing fetched
    exact SourcedLines.ofGraph ⟨repository.id, scope, rows, made, sourced⟩

namespace Framed

theorem new (pageSize : Nat) (scope : Scope) : (new pageSize scope).Framed where
  drawn := TreeLine.ofGraph_nil
  drafted _ _ showing := nomatch showing
  emptied _ _ showing := nomatch showing
  alone fault := absurd rfl fault

/-- Nothing changes while lines and fault stay as they are, and whoever shows lines either stays
where it is or has just begun. -/
theorem of_still (framed : session.Framed)
    (lines : next.world.display.lines = session.world.display.lines)
    (fault : next.world.display.fault = session.world.display.fault)
    (earlier : ∀ task stage, next.showingOf? task = some stage →
      session.showingOf? task = some stage ∨ stage = .start)
    (later : ∀ task stage, session.showingOf? task = some stage →
      next.showingOf? task = some stage) : next.Framed where
  drawn := lines ▸ framed.drawn
  drafted task draft showing := by
    obtain before | begun := earlier task _ showing
    · exact framed.drafted task draft before
    · cases begun
  emptied task reason showing := by
    obtain before | begun := earlier task _ showing
    · exact lines ▸ framed.emptied task reason before
    · cases begun
  alone broken := by
    rw [fault] at broken
    rw [lines]
    exact (framed.alone broken).imp_right fun ⟨task, before⟩ => ⟨task, later task _ before⟩

/-- Whoever shows lines is the only one, so after its step the rest follows from where it stands. -/
theorem of_steps (framed : session.Framed)
    (accounted : ∀ id, session.Accounted history id pageSize 0) {task : Nat}
    {reply : Option Reply} {stage stage' : Showing}
    (under : session.showingOf? task = some stage)
    (goes : next.showingOf? task = stage'.underWay?)
    (only : ∀ other shown, session.showingOf? other = some shown → other = task)
    (only' : ∀ other shown, next.showingOf? other = some shown → other = task)
    (steps : Showing.Steps task session.world stage reply next.world stage') :
    next.Framed := by
  -- Where anybody stands after the step is where this activity stands.
  have stands {other : Nat} {shown : Showing} (showing : next.showingOf? other = some shown) :
      stage' = shown := by
    obtain rfl := only' other shown showing
    exact Showing.eq_of_underWay? (goes.symm.trans showing)
  generalize reached : next.world = world' at steps
  have view {stage'' : Showing} (same : session.showingOf? task = some stage'') :
      stage'' = stage := Option.some.inj (same.symm.trans under)
  cases steps with
  | @read children children' _ _ advanced =>
    have display : next.world.display = session.world.display :=
      reached ▸ Children.display_of_advance advanced
    refine ⟨display ▸ framed.drawn, ?_, ?_, ?_⟩
    · intro other lines showing
      exact ofGraph_of_read accounted under advanced (stands showing)
    · intro other fault showing
      have never := stands showing
      unfold Showing.ofChildren at never
      split at never <;> cases never
    · -- Nobody else is between the writes, and this activity was still reading.
      intro broken
      rw [display] at broken ⊢
      obtain none | ⟨other, dropping⟩ := framed.alone broken
      · exact Or.inl none
      · obtain rfl := only other _ dropping
        cases view dropping
  | putLines lines =>
    refine ⟨?_, ?_, ?_, ?_⟩
    · rw [reached]
      exact framed.drafted task lines under
    · intro other draft showing
      cases stands showing
    · intro other fault showing
      cases stands showing
    · -- A fault that is still there is dropped next, by this activity.
      exact fun _ => Or.inr ⟨task, goes⟩
  | dropFault =>
    refine ⟨?_, ?_, ?_, ?_⟩
    · rw [reached]
      exact framed.drawn
    · intro other draft showing
      cases stands showing
    · intro other fault showing
      cases stands showing
    · intro broken
      rw [reached] at broken
      exact absurd rfl broken
  | dropLines fault =>
    have none : next.world.display.lines = [] := by rw [reached]; rfl
    refine ⟨none ▸ TreeLine.ofGraph_nil, ?_, fun _ _ _ => none, fun _ => Or.inl none⟩
    intro other draft showing
    cases stands showing
  | putFault fault =>
    have none : next.world.display.lines = [] := by
      rw [reached]
      exact framed.emptied task fault under
    refine ⟨none ▸ TreeLine.ofGraph_nil, ?_, fun _ _ _ => none, fun _ => Or.inl none⟩
    intro other draft showing
    cases stands showing

/-- Every move keeps what is shown and what is about to be. -/
theorem of_move (framed : session.Framed)
    (accounted : ∀ id, session.Accounted history id pageSize 0) (exclusive : session.Exclusive)
    (moved : session.move move = some next) : next.Framed := by
  have others {task : Nat} (other : task ≠ session.mover move) :
      next.showingOf? task = session.showingOf? task := part?_of_other _ moved other
  -- All others stay where they are, so it is enough to see what the mover does.
  obtain ⟨reply, seen⟩ := showing_of_move moved
  generalize before : session.showingOf? (session.mover move) = was at seen
  generalize after : next.showingOf? (session.mover move) = goes at seen
  cases seen with
  | @step stage stage' steps =>
    refine framed.of_steps accounted before after ?_ ?_ steps
    · exact fun other shown showing => exclusive.eq_of_showingOf? showing before
    · intro other shown showing
      by_contra different
      rw [others different] at showing
      exact different (exclusive.eq_of_showingOf? showing before)
  | begin lines fault =>
    refine framed.of_still lines fault ?_ ?_
    · intro task stage showing
      by_cases mover : task = session.mover move
      · rw [mover, after] at showing
        exact Or.inr (Option.some.inj showing).symm
      · exact Or.inl (others mover ▸ showing)
    · intro task stage showing
      have mover : task ≠ session.mover move := by
        rintro rfl
        cases before.symm.trans showing
      exact (others mover).trans showing
  | rest lines fault =>
    have same (task : Nat) : next.showingOf? task = session.showingOf? task := by
      by_cases mover : task = session.mover move
      · rw [mover, before, after]
      · exact others mover
    exact framed.of_still lines fault (fun task stage showing => Or.inl (same task ▸ showing))
      fun task stage showing => (same task).trans showing

theorem of_play (played : (Session.new pageSize scope).play moves = some session) :
    session.Framed :=
  play_induction (fun _ session => session.Framed) (new pageSize scope)
    (fun _ _ _ _ before framed moved =>
      framed.of_move (fun id => (Accounted.new id pageSize scope).of_play before)
        (Exclusive.of_play before) moved) played

end Framed

/-- In every run the tree shows one view of a history. And if there is a fault the tree is empty,
unless somebody has just put up other lines and is about to drop the fault. -/
theorem view_of_play (played : (new pageSize scope).play moves = some session) :
    View session.world.display.lines ∧
      ((∀ task, session.showingOf? task ≠ some .dropFault) →
        session.world.display.fault ≠ none → session.world.display.lines = []) := by
  have framed := Framed.of_play played
  refine ⟨framed.drawn.view, ?_⟩
  intro settled broken
  obtain none | ⟨task, dropping⟩ := framed.alone broken
  · exact none
  · exact absurd dropping (settled task)

/-- The lines of the selected repository are put up and the fault is about to be dropped. -/
def refreshedRun (page : List Commit) : List Move :=
  [.start (.edit (.add sampleRepository)), .advance 0 none,
    .start (.edit (.activate (some sampleRepository.id))), .advance 1 none,
    .start (.refresh false)] ++
    (List.replicate 11 none ++ [some (Reply.lineage (.ok (some sampleLineage)))]).map
      (.advance 2) ++ storing 2 page ++ [.advance 2 none]

/-- One more page is wanted and cannot be had. -/
def failedRun (page : List Commit) (fault : Fault) : List Move :=
  refreshedRun page ++ List.replicate 5 (.advance 2 none) ++
    [.start (.edit (.setWantsMore sampleRepository.id true)), .advance 3 none,
      .start (.refresh false)] ++
    (List.replicate 11 none ++ [some (Reply.lineage (.error fault)), none, none]).map (.advance 4)

theorem view_of_play_failedRun :
    (∃ session, (new 1 .lineage).play (refreshedRun mergedPage) = some session ∧
      session.world.display.lines.length = 3 ∧ View session.world.display.lines) ∧
    ∃ session, (new 1 .lineage).play (failedRun mergedPage (.source "git" "gone")) = some session ∧
      (∀ task, session.showingOf? task ≠ some .dropFault) ∧
      session.world.display.fault ≠ none ∧ session.world.display.lines = [] := by
  have shown : (new 1 .lineage).play (refreshedRun mergedPage) =
      some (sampleAfter (refreshedRun mergedPage)) := rfl
  have failed : (new 1 .lineage).play (failedRun mergedPage (.source "git" "gone")) =
      some (sampleAfter (failedRun mergedPage (.source "git" "gone"))) := rfl
  have activities : (sampleAfter (failedRun mergedPage (.source "git" "gone"))).activities =
      [.edited, .edited, .refresh (.done 1), .edited, .refresh (.updating 0 .leave)] := rfl
  have settled (task : Nat) :
      (sampleAfter (failedRun mergedPage (.source "git" "gone"))).showingOf? task ≠
        some .dropFault := by
    rw [showingOf?, part?, activities]
    intro showing
    rcases task with _ | _ | _ | _ | _ | task <;> cases showing
  have broken : (sampleAfter (failedRun mergedPage (.source "git" "gone"))).world.display.fault ≠
      none := by decide
  exact ⟨⟨_, shown, rfl, (view_of_play shown).1⟩,
    ⟨_, failed, settled, broken, (view_of_play failed).2 settled broken⟩⟩

end Session

end CommitHistory
