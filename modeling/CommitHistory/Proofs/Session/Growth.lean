/-
# Rows only grow

While a repository is not removed, its requests do not overlap, so a page that is kept
comes below the rows that are stored then. The rows of a lineage therefore only grow until
they are dropped. When another lineage is checked out, its first page is asked for from
the beginning and replaces them.

## Main definitions

* `Session.Rebuilt` — the rows were laid anew for another lineage, and have grown since.
* `Session.Grown` — rows have grown out of others, or were laid anew.

## Main results

* `Session.Grown.of_move` — a move that does not drop the rows lets them grow.
* `Session.rows_grow` — the rows that are stored later have grown out of those stored before.
-/

import CommitHistory.Proofs.Session.Provenance
import CommitHistory.Proofs.Session.SingleFlight

namespace CommitHistory.Session

variable {session next final : Session} {move : Move} {moves : List Move} {id : RepositoryId}
  {lineage : Lineage} {graph : Graph}

/-- A page of a lineage was kept when the rows of another one were stored. It had been asked for
from the beginning, and its rows are the first ones now. -/
def Rebuilt (id : RepositoryId) (session : Session) (moves : List Move) (lineage : Lineage)
    (graph : Graph) : Prop :=
  ∃ earlier move later before after old rows request limit page,
    moves = earlier ++ move :: later ∧ session.play earlier = some before ∧
    before.move move = some after ∧ .kept request page ∈ before.events move ∧
    request.repository = id ∧ request.lineage = lineage ∧
    request.query = .page (request.scope.ids lineage) limit 0 ∧
    before.world.store.basis? id = some (old, rows) ∧ old ≠ lineage ∧
    after.world.store.basis? id = some (lineage, .ofPages lineage request.scope [page]) ∧
    (Graph.ofPages lineage request.scope [page]).rows <+: graph.rows

/-- The rows of a repository have grown out of the rows of a lineage, or were laid anew. -/
def Grown (id : RepositoryId) (session : Session) (moves : List Move) (known : Lineage)
    (rows : List Row) (lineage : Lineage) (graph : Graph) : Prop :=
  known = lineage ∧ rows <+: graph.rows ∨ session.Rebuilt id moves lineage graph

/-- Rows that have grown go on growing. -/
theorem Grown.extend {known : Lineage} {rows : List Row}
    (grown : session.Grown id moves known rows lineage graph) {longer : Graph}
    (below : graph.rows <+: longer.rows) (later : List Move) :
    session.Grown id (moves ++ later) known rows lineage longer := by
  obtain ⟨same, above⟩ | rebuilt := grown
  · exact Or.inl ⟨same, above.trans below⟩
  · obtain ⟨earlier, move, rest, before, after, old, stored, request, limit, page, split, played,
      moved, event, here, own, query, was, other, laid, above⟩ := rebuilt
    refine Or.inr ⟨earlier, move, rest ++ later, before, after, old, stored, request, limit, page,
      ?_, played, moved, event, here, own, query, was, other, laid, above.trans below⟩
    rw [split, List.append_assoc, List.cons_append]

/-- A move that does not drop the rows of a repository lets them grow. -/
theorem Grown.of_move {middle : Session} {known : Lineage} {rows : List Row}
    (guarded : middle.Guarded id) (played : session.play moves = some middle)
    (held : middle.world.store.basis? id = some (lineage, graph))
    (grown : session.Grown id moves known rows lineage graph)
    (moved : middle.move move = some next) (spared : .dropped id ∉ middle.events move) :
    ∃ lineage graph, next.world.store.basis? id = some (lineage, graph) ∧
      session.Grown id (moves ++ [move]) known rows lineage graph := by
  cases Fate.of_move id moved with
  | dropped _ event => exact absurd event spared
  | spared keeps =>
    exact ⟨lineage, graph, keeps.basis.trans held, grown.extend (List.prefix_refl _) [move]⟩
  | @kept task gate repository ticket own page _ _ under same valid basis _ _ events =>
    refine ⟨own, _, basis, ?_⟩
    -- No other page was stored since the fetch made its note.
    have noted : ticket.basis = some (lineage, graph) := by
      rw [guarded.eq_take under same valid]
      exact held
    by_cases changed : lineage = own
    · -- The page comes below the rows that are stored.
      subst changed
      have below : ticket.graph lineage = graph := by rw [Ticket.graph, noted]; exact if_pos rfl
      refine grown.extend ?_ [move]
      rw [Ticket.grown, below]
      exact Graph.rows_prefix_extend ..
    · -- Nothing that was noted belongs to the new lineage, so it is laid from the beginning.
      have empty : ticket.graph own = .empty := by rw [Ticket.graph, noted]; exact if_neg changed
      have laid : ticket.grown own page = .ofPages own ticket.scope [page] := by
        rw [Ticket.grown, empty]
        rfl
      refine Or.inr ⟨moves, move, [], middle, next, lineage, graph,
        ticket.request task id middle.world.pageSize own, middle.world.pageSize, page, rfl, played,
        moved, ?_, rfl, rfl, ?_, held, changed, laid ▸ basis, ?_⟩
      · rw [events]
        exact List.mem_singleton_self _
      · rw [Ticket.request, Ticket.pageQuery, empty]
        rfl
      · exact laid ▸ List.prefix_refl _

/-- In a tidy run that does not drop the rows of a repository they grow. -/
theorem Grown.of_play (guarded : session.Guarded id)
    (held : session.world.store.basis? id = some (lineage, graph))
    (played : session.play moves = some final) (tidy : session.Tidy id moves)
    (undropped : .dropped id ∉ session.history moves) :
    ∃ lineage' graph', final.world.store.basis? id = some (lineage', graph') ∧
      session.Grown id moves lineage graph.rows lineage' graph' := by
  refine play_induction (fun moves final => session.Tidy id moves →
    .dropped id ∉ session.history moves → ∃ lineage' graph',
      final.world.store.basis? id = some (lineage', graph') ∧
        session.Grown id moves lineage graph.rows lineage' graph')
    (fun _ _ => ⟨lineage, graph, held, Or.inl ⟨rfl, List.prefix_refl _⟩⟩) ?_ played tidy undropped
  intro moves middle move next before ih moved tidy undropped
  have tidy := ((throughout_concat before).mp tidy).1
  rw [history_concat before, List.mem_append, not_or] at undropped
  obtain ⟨known, rows, stored, grown⟩ := ih tidy undropped.1
  exact grown.of_move (guarded.of_play before tidy) before stored moved undropped.2

/-- While a repository is never removed and its rows are not dropped, the rows stored for it either
belong to the same lineage as before and begin with the rows from before, or were laid anew when
the lineage had changed, with a page that was asked for from the beginning. -/
theorem rows_grow {pageSize : Nat} {scope : Scope} {before between : List Move}
    {earlier later : Cached} (played : (new pageSize scope).play before = some session)
    (after : session.play between = some final)
    (kept : .start (.remove id) ∉ before ++ between)
    (undropped : .dropped id ∉ session.history between)
    (held : session.world.store.cached.get? id = some earlier)
    (stored : final.world.store.cached.get? id = some later) :
    earlier.lineage = later.lineage ∧ earlier.graph.rows <+: later.graph.rows ∨
      session.Rebuilt id between later.lineage later.graph := by
  have whole := (play_append_of_play played between).trans after
  have tidy := (throughout_append played).mp (tidy_of_kept whole kept)
  have guarded := Guarded.of_play (.new id pageSize scope) played tidy.1
  obtain ⟨lineage, graph, basis, grown⟩ :=
    Grown.of_play guarded (Store.basis?_of_cached held) after tidy.2 undropped
  rw [Store.basis?_of_cached stored] at basis
  obtain ⟨rfl, rfl⟩ := Prod.mk.inj (Option.some.inj basis)
  exact grown

theorem rows_grow_pagedRun :
    ∃ session final earlier later, (new 1 .lineage).play sampleRun = some session ∧
      session.play pagedRun = some final ∧ .start (.remove ⟨"r"⟩) ∉ sampleRun ++ pagedRun ∧
      .dropped ⟨"r"⟩ ∉ session.history pagedRun ∧
      session.world.store.cached.get? ⟨"r"⟩ = some earlier ∧
      final.world.store.cached.get? ⟨"r"⟩ = some later ∧
      (earlier.lineage = later.lineage ∧ earlier.graph.rows <+: later.graph.rows ∨
        session.Rebuilt ⟨"r"⟩ pagedRun later.lineage later.graph) := by
  let session := sampleAfter sampleRun
  let final := sampleAfter (sampleRun ++ pagedRun)
  have played : (new 1 .lineage).play sampleRun = some session := rfl
  have after : session.play pagedRun = some final := rfl
  have kept : .start (.remove ⟨"r"⟩) ∉ sampleRun ++ pagedRun := by
    simp [sampleRun, pagedRun, asking, storing]
  have undropped : .dropped ⟨"r"⟩ ∉ session.history pagedRun := by decide
  obtain ⟨earlier, held⟩ :
      ∃ earlier, session.world.store.cached.get? ⟨"r"⟩ = some earlier := ⟨_, rfl⟩
  obtain ⟨later, stored⟩ : ∃ later, final.world.store.cached.get? ⟨"r"⟩ = some later := ⟨_, rfl⟩
  exact ⟨session, final, earlier, later, played, after, kept, undropped, held, stored,
    rows_grow played after kept undropped held stored⟩

end CommitHistory.Session
