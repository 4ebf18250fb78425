/-
# Refusals

A source may refuse to name the lineage or to hand out a page. A fetch that is refused has
changed nothing that is known about repositories, and a request for more that is refused has
changed the marks of its rows alone. If nobody else touches the rows they stay wanted, so the
next fetch asks for the same page again, and appends it once.

## Main definitions

* `Silent`, `Remarked` — steps that change nothing, or the marks of one repository alone.
* `Fetch.Told` — what a fetch has been told when it comes to a stage.
* `Fetch.Appends`, `LoadMore.Extends` — where a fetch or a request for more of rows that nobody
  else touches stands.
* `Cached.pageQuestion?` — what is asked below rows.

## Main results

* `Fetch.silent_of_advance`, `LoadMore.remarked_of_advance` — steps on the way to a refusal.
* `FetchCourse.of_wanted`, `RequestCourse.extends` — what comes of rows that nobody else touches.
* `refusals_keep_rows` — refusals leave the rows as they are and wanted.
-/

import CommitHistory.Proofs.Session.Course

namespace CommitHistory.Session

/-! ### Steps on the way to a refusal -/

/-- Nothing that is known about repositories changes, and nothing is published. -/
structure Silent (before after : World) : Prop where
  store : after.store = before.store
  notices : after.notices = before.notices

/-- Nothing that is known about repositories changes but the marks of the rows of one, and nothing
is published. -/
structure Remarked (id : RepositoryId) (before after : World) : Prop where
  rows : ∀ other, after.store.basis? other = before.store.basis? other
  others : ∀ other, other ≠ id →
    after.store.cached.get? other = before.store.cached.get? other
  rest : { after.store with cached := before.store.cached } = before.store
  notices : after.notices = before.notices

variable {task : Nat} {repository : Repository} {world world' : World} {reply : Option Reply}
  {id : RepositoryId}

theorem Silent.remarked (silent : Silent world world') (id : RepositoryId) :
    Remarked id world world' := by
  obtain ⟨store, notices⟩ := silent
  refine ⟨fun _ => ?_, fun _ _ => ?_, ?_, notices⟩ <;> rw [store]

theorem Remarked.of_alter (world : World) (id : RepositoryId) {change : Cached → Cached}
    (marks : ∀ cached, (change cached).lineage = cached.lineage ∧
      (change cached).graph = cached.graph) :
    Remarked id world { world with store := world.store.alter id change } := by
  refine ⟨fun other => Store.basis?_alter world.store id other marks, fun other different => ?_, ?_,
    rfl⟩
  · rw [Store.get?_cached_alter, if_neg different]
  · simp only [Store.alter]
    split <;> rfl

/-- A fetch may still be refused, or was. -/
def Fetch.MayFail : Fetch → Prop
  | .done (.ok _) => False
  | _ => True

/-- A request for more may still be refused, or was. -/
def LoadMore.MayFail : LoadMore → Prop
  | .unmark (.ok _) | .done (.ok _) => False
  | _ => True

theorem LoadMore.mayFail_ofFetch {fetch : Fetch} :
    (LoadMore.ofFetch fetch).MayFail ↔ fetch.MayFail := by
  cases fetch with
  | done result => cases result <;> exact Iff.rfl
  | _ => exact Iff.rfl

/-- A step of a fetch that may still be refused afterwards changes nothing. -/
theorem Fetch.silent_of_advance {stage stage' : Fetch}
    (advanced : stage.advance task repository world reply = some (world', stage'))
    (may : stage'.MayFail) : stage.MayFail ∧ Silent world world' := by
  cases Steps.of_advance advanced with
  | drop _ | keep _ => cases may
  | leave inside _ _ =>
    refine ⟨?_, rfl, rfl⟩
    cases stage <;> trivial
  | _ => exact ⟨trivial, rfl, rfl⟩

/-- A step of a request for more that may still be refused afterwards changes marks alone. -/
theorem LoadMore.remarked_of_advance {stage stage' : LoadMore}
    (advanced : stage.advance task repository world reply = some (world', stage'))
    (may : stage'.MayFail) : stage.MayFail ∧ Remarked repository.id world world' := by
  cases stage with
  | guard =>
    cases reply with
    | some _ => cases advanced
    | none =>
      rw [advance] at advanced
      split at advanced
      next => cases advanced; cases may
      next =>
        split at advanced <;> cases advanced
        next => cases may
        next => exact ⟨trivial, .of_alter world repository.id fun _ => ⟨rfl, rfl⟩⟩
  | fetching fetch =>
    obtain ⟨fetch', stepped, rfl⟩ := exists_of_map_eq_some advanced
    obtain ⟨-, silent⟩ := Fetch.silent_of_advance stepped (mayFail_ofFetch.mp may)
    exact ⟨trivial, silent.remarked repository.id⟩
  | unmark result =>
    cases reply <;> cases advanced
    refine ⟨?_, .of_alter world repository.id fun _ => ⟨rfl, rfl⟩⟩
    cases result with
    | ok _ => cases may
    | error _ => trivial
  | done result => cases advanced

/-! ### What a fetch is told -/

/-- What comes of a fetch that was told some replies. -/
inductive Fetch.Answered : List Reply → Except Fault (List Row) → Prop
  | unasked (rows : List Row) : Answered [] (.ok rows)
  | withoutLineage (fault : Fault) : Answered [.lineage (.error fault)] (.error fault)
  | missing : Answered [.lineage (.ok none)] (.ok [])
  | withoutPage (lineage : Lineage) (fault : Fault) :
      Answered [.lineage (.ok (some lineage)), .page (.error fault)] (.error fault)
  | page (lineage : Lineage) (page : List Commit) (rows : List Row) :
      Answered [.lineage (.ok (some lineage)), .page (.ok page)] (.ok rows)

/-- What a fetch has been told when it comes to a stage. -/
def Fetch.Told (replies : List Reply) : Fetch → Prop
  | .askPage _ _ lineage => replies = [.lineage (.ok (some lineage))]
  | .drop _ _ => replies = [.lineage (.ok none)]
  | .keep _ _ lineage page => replies = [.lineage (.ok (some lineage)), .page (.ok page)]
  | .done result => Answered replies result
  | _ => replies = []

theorem Fetch.Told.of_advance {stage stage' : Fetch} {replies : List Reply}
    (told : stage.Told replies)
    (advanced : stage.advance task repository world reply = some (world', stage')) :
    stage'.Told (replies ++ reply.toList) := by
  cases stage' with
  | done result =>
    cases Ends.of_advance advanced <;> obtain rfl := told
    case sourceless | found | foundInside => exact .unasked _
    case withoutLineage fault => exact .withoutLineage fault
    case withoutPage lineage fault => exact .withoutPage lineage fault
    case dropped | spared => exact .missing
    case kept lineage page _ | handedOut lineage page _ => exact .page lineage page _
  | _ =>
    cases Steps.of_advance advanced <;> obtain rfl := told <;> rfl

variable {session next final : Session} {move : Move} {moves : List Move}

/-! ### Rows that nobody else touches -/

/-- What is cached for a repository stays as it is. -/
def SameCached (id : RepositoryId) (before after : World) : Prop :=
  after.store.cached.get? id = before.store.cached.get? id

/-- While rows stay as they are, a fetch notes the same. -/
theorem take_of_move {cached : Cached} (moved : session.move move = some next)
    (there : session.world.store.cached.get? id = some cached)
    (same : SameCached id session.world next.world) :
    Ticket.take next.world.store id = Ticket.take session.world.store id := by
  have basis : next.world.store.basis? id = session.world.store.basis? id :=
    congrArg (Option.map _) same
  have rows := Store.basis?_of_cached there
  have counted : next.world.store.generation id = session.world.store.generation id ∧
      next.world.store.scope = session.world.store.scope := by
    cases Fate.of_move id moved with
    | kept _ _ _ _ _ generation scope => exact ⟨generation, scope⟩
    | dropped drops => cases (drops.basis.symm.trans basis).trans rows
    | spared keeps =>
      refine ⟨keeps.generation, keeps.scope.resolve_right fun none => ?_⟩
      cases none.symm.trans rows
  exact Ticket.mk.injEq .. |>.mpr ⟨basis, counted.1, counted.2⟩

/-- The rows are those that were there, and a fetch that has noted anything has noted them. -/
structure Fetch.Holds (repository : Repository) (cached : Cached) (ticket : Ticket) (store : Store)
    (stage : Fetch) : Prop where
  asks : stage = .lookup ∨ repository.source ≠ none
  rows : store.cached.get? repository.id = some cached
  note : Ticket.take store repository.id = ticket
  noted : ∀ own, stage.ticket? = some own → own = ticket

/-- Where a fetch of rows that nobody else touches stands when it was told some replies. When it is
over it has asked, and the page that it was told is appended to the rows that were there. -/
def Fetch.Appends (repository : Repository) (cached : Cached) (ticket : Ticket)
    (replies : List Reply) (store : Store) : Fetch → Prop
  | .done (.ok rows) => repository.source = none ∨ replies ≠ [] ∧
      ∀ lineage page, replies = [.lineage (.ok (some lineage)), .page (.ok page)] →
        store.cached.get? repository.id = some
          { lineage, graph := ticket.grown lineage page, wantsMore := false
            loadingMore := cached.loadingMore } ∧
          rows = (ticket.grown lineage page).rows
  | stage => stage.Holds repository cached ticket store ∧
      ∀ result, stage = .done result → replies ≠ []

section

variable {cached : Cached} {ticket : Ticket} {replies : List Reply} {stage stage' : Fetch}

theorem Fetch.Appends.holds {store : Store}
    (appends : stage.Appends repository cached ticket replies store)
    (under : ∀ result, stage ≠ .done result) : stage.Holds repository cached ticket store := by
  cases stage with
  | done result => exact absurd rfl (under result)
  | _ => exact appends.1

/-- A fetch that goes on leaves the rows as they are. -/
theorem Fetch.Holds.of_advance (holds : stage.Holds repository cached ticket world.store)
    (advanced : stage.advance task repository world reply = some (world', stage'))
    (under : ∀ result, stage' ≠ .done result) :
    stage'.Holds repository cached ticket world'.store := by
  obtain ⟨asks, rows, note, noted⟩ := holds
  have steps := Steps.of_advance advanced
  have store : world'.store = world.store := by
    cases steps <;> first | rfl | exact absurd rfl (under _)
  have source := Fetch.source_ne_none_of_advance asks advanced under
  refine ⟨Or.inr source, store ▸ rows, store ▸ note, fun own taken => ?_⟩
  obtain ⟨-, old | rfl⟩ := steps.ticket taken
  · exact noted own old
  · exact note

/-- A fetch of rows that are wanted comes to its end when it has asked. -/
theorem Fetch.Holds.appends_of_over {result : Except Fault (List Row)}
    (holds : stage.Holds repository cached ticket world.store) (wanted : cached.wantsMore = true)
    (told : stage.Told replies)
    (advanced : stage.advance task repository world reply = some (world', .done result)) :
    (Fetch.done result).Appends repository cached ticket (replies ++ reply.toList)
      world'.store := by
  obtain ⟨asks, rows, note, noted⟩ := holds
  have missing : world.store.fresh? repository.id = none := by simp [Store.fresh?, rows, wanted]
  cases Ends.of_advance advanced with
  | sourceless without => exact Or.inl without
  | found fresh | foundInside fresh => cases missing.symm.trans fresh
  | withoutLineage fault | withoutPage fault =>
    refine ⟨⟨Or.inr (asks.resolve_left (by simp)), rows, note, fun own taken => ?_⟩, fun _ _ => ?_⟩
    · cases taken
    · exact List.concat_ne_nil _ _
  | dropped _ | spared _ =>
    obtain rfl := told
    exact Or.inr ⟨List.cons_ne_nil _ _, fun _ _ other => by cases other⟩
  | @kept gate own lineage page valid =>
    obtain rfl := noted own rfl
    obtain rfl := told
    refine Or.inr ⟨List.cons_ne_nil _ _, fun lineage' page' same => ?_⟩
    cases same
    refine ⟨?_, rfl⟩
    simp [finish, store, World.publish, Store.isLoadingMore, rows]
  | @handedOut gate own lineage page old =>
    -- Nothing was dropped, and the scope is the same.
    obtain rfl := noted own rfl
    refine absurd ?_ old
    rw [← note]
    simp [Ticket.isValid, Ticket.take]

/-- A step of a fetch of rows that are wanted. -/
theorem Fetch.Appends.of_advance (wanted : cached.wantsMore = true)
    (appends : stage.Appends repository cached ticket replies world.store)
    (told : stage.Told replies)
    (advanced : stage.advance task repository world reply = some (world', stage')) :
    stage'.Appends repository cached ticket (replies ++ reply.toList) world'.store := by
  have holds := appends.holds fun result ended => by
    subst ended
    cases advanced
  cases stage' with
  | done result => exact holds.appends_of_over wanted told advanced
  | _ => exact ⟨holds.of_advance advanced nofun, nofun⟩

/-- A step that others take, if it leaves the rows as they are. -/
theorem Fetch.Appends.of_move
    (appends : stage.Appends repository cached ticket replies session.world.store)
    (moved : session.move move = some next)
    (same : SameCached repository.id session.world next.world) :
    stage.Appends repository cached ticket replies next.world.store := by
  have kept (holds : stage.Holds repository cached ticket session.world.store) :
      stage.Holds repository cached ticket next.world.store :=
    ⟨holds.asks, same.trans holds.rows, (take_of_move moved holds.rows same).trans holds.note,
      holds.noted⟩
  cases stage with
  | done result =>
    cases result with
    | ok rows =>
      obtain without | ⟨asked, stored⟩ := appends
      · exact Or.inl without
      · exact Or.inr ⟨asked, fun lineage page told =>
          (stored lineage page told).imp_left same.trans⟩
    | error fault => exact ⟨kept appends.1, appends.2⟩
  | _ => exact ⟨kept appends.1, appends.2⟩

/-- What comes of a fetch of rows that are wanted and that nobody else touches. -/
theorem FetchCourse.appends (wanted : cached.wantsMore = true)
    (course : FetchCourse task repository session stage moves final stage')
    (appends : stage.Appends repository cached ticket replies session.world.store)
    (so : stage.Told replies)
    (alone : session.Keeping (· ≠ task) (SameCached repository.id) moves) :
    stage'.Appends repository cached ticket (replies ++ Session.told task moves)
      final.world.store := by
  induction course generalizing replies with
  | nil => rw [Session.told, List.filterMap_nil, List.append_nil]; exact appends
  | wait moved other _ ih =>
    obtain ⟨same, alone⟩ := (keeping_cons moved).mp alone
    rw [told_of_other other moved]
    exact ih (appends.of_move moved (same other)) so alone
  | step _ moved advanced _ ih =>
    obtain ⟨-, alone⟩ := (keeping_cons moved).mp alone
    rw [told_advance, ← List.append_assoc]
    exact ih (appends.of_advance wanted so advanced) (so.of_advance advanced) alone

end

/-! ### Requests for more of such rows -/

/-- The rows while a request for more is outstanding. -/
def Cached.marked (cached : Cached) : Cached :=
  { cached with wantsMore := true, loadingMore := true }

/-- The rows when a request for more was refused: a page is still wanted. -/
def Cached.wanted (cached : Cached) : Cached :=
  { cached with wantsMore := true, loadingMore := false }

/-- A request for more of rows has been, or may be, refused. Its fetch can note them as before. -/
structure LoadMore.Keeps (repository : Repository) (start : Option Cached) (ticket : Ticket)
    (store : Store) (marks : Cached → Cached) : Prop where
  source : repository.source ≠ none
  rows : ∃ cached, start = some cached ∧ store.cached.get? repository.id = some (marks cached)
  note : Ticket.take store repository.id = ticket

/-- Where a request for more of rows that nobody else touches stands when it was told some
replies. -/
def LoadMore.Extends (repository : Repository) (start : Option Cached) (ticket : Ticket)
    (replies : List Reply) (store : Store) : LoadMore → Prop
  | .guard => replies = [] ∧ store.cached.get? repository.id = start ∧
      ∀ cached, start = some cached → Ticket.take store repository.id = ticket
  | .fetching fetch => fetch.Told replies ∧ ∃ cached, start = some cached ∧
      fetch.Appends repository cached.marked ticket replies store
  | .unmark (.error _) => Keeps repository start ticket store Cached.marked
  | .done (.error _) => Keeps repository start ticket store Cached.wanted
  | _ => True

section

variable {start : Option Cached} {ticket : Ticket} {replies : List Reply} {stage stage' : LoadMore}

/-- A step of a request for more of rows. -/
theorem LoadMore.Extends.of_advance
    (extending : stage.Extends repository start ticket replies world.store)
    (advanced : stage.advance task repository world reply = some (world', stage')) :
    stage'.Extends repository start ticket (replies ++ reply.toList) world'.store := by
  cases stage with
  | guard =>
    obtain ⟨rfl, rows, note⟩ := extending
    cases reply with
    | some _ => cases advanced
    | none =>
      rw [advance] at advanced
      split at advanced
      next => cases advanced; trivial
      next cached held =>
        split at advanced <;> cases advanced
        next => trivial
        next =>
          have began : start = some cached := rows.symm.trans held
          refine ⟨rfl, cached, began, ⟨Or.inl rfl, ?_, ?_, fun own taken => by cases taken⟩,
            fun result ended => by cases ended⟩
          · simp [held, Cached.marked]
          · rw [← note cached began]
            exact Store.take_alter fun _ => ⟨rfl, rfl⟩
  | fetching fetch =>
    obtain ⟨told, cached, began, appends⟩ := extending
    obtain ⟨fetch', stepped, rfl⟩ := exists_of_map_eq_some advanced
    have appends := appends.of_advance rfl told stepped
    have told := told.of_advance stepped
    cases fetch' with
    | done result =>
      cases result with
      | ok rows => trivial
      | error fault =>
        obtain ⟨asks, rows, note, -⟩ := appends.1
        exact ⟨asks.resolve_left (by simp), ⟨cached, began, rows⟩, note⟩
    | _ => exact ⟨told, cached, began, appends⟩
  | unmark result =>
    cases reply <;> cases advanced
    cases result with
    | ok _ => trivial
    | error fault =>
      obtain ⟨source, ⟨cached, began, rows⟩, note⟩ := extending
      refine ⟨source, ⟨cached, began, ?_⟩, ?_⟩
      · simp [rows, Cached.marked, Cached.wanted]
      · rw [← note]
        exact Store.take_alter fun _ => ⟨rfl, rfl⟩
  | done result => cases advanced

theorem LoadMore.Keeps.of_move {marks : Cached → Cached}
    (keeps : LoadMore.Keeps repository start ticket session.world.store marks)
    (moved : session.move move = some next)
    (same : SameCached repository.id session.world next.world) :
    LoadMore.Keeps repository start ticket next.world.store marks := by
  obtain ⟨source, ⟨cached, began, rows⟩, note⟩ := keeps
  exact ⟨source, ⟨cached, began, same.trans rows⟩, (take_of_move moved rows same).trans note⟩

/-- A step that others take, if it leaves the rows as they are. -/
theorem LoadMore.Extends.of_move
    (extending : stage.Extends repository start ticket replies session.world.store)
    (moved : session.move move = some next)
    (same : SameCached repository.id session.world next.world) :
    stage.Extends repository start ticket replies next.world.store := by
  cases stage with
  | guard =>
    obtain ⟨told, rows, note⟩ := extending
    refine ⟨told, same.trans rows, fun cached began => ?_⟩
    exact (take_of_move moved (rows.trans began) same).trans (note cached began)
  | fetching fetch =>
    obtain ⟨told, cached, began, appends⟩ := extending
    exact ⟨told, cached, began, appends.of_move moved same⟩
  | unmark result | done result =>
    cases result with
    | ok _ => trivial
    | error fault => exact LoadMore.Keeps.of_move extending moved same

/-- What comes of a request for more of rows that nobody else touches. -/
theorem RequestCourse.extends
    (course : RequestCourse task repository session stage moves final stage')
    (extending : stage.Extends repository start ticket replies session.world.store)
    (alone : session.Keeping (· ≠ task) (SameCached repository.id) moves) :
    stage'.Extends repository start ticket (replies ++ Session.told task moves)
      final.world.store := by
  induction course generalizing replies with
  | nil => rw [Session.told, List.filterMap_nil, List.append_nil]; exact extending
  | wait moved other _ ih =>
    obtain ⟨same, alone⟩ := (keeping_cons moved).mp alone
    rw [told_of_other other moved]
    exact ih (extending.of_move moved (same other)) alone
  | step _ moved advanced _ ih =>
    obtain ⟨-, alone⟩ := (keeping_cons moved).mp alone
    rw [told_advance, ← List.append_assoc]
    exact ih (extending.of_advance advanced) alone

end

/-! ### After a refusal -/

/-- Rows that nobody touches can be noted as before. -/
theorem take_of_keeping {cached : Cached} (played : session.play moves = some final)
    (there : session.world.store.cached.get? id = some cached)
    (untouched : session.Keeping (fun _ => True) (SameCached id) moves) :
    final.world.store.cached.get? id = some cached ∧
      Ticket.take final.world.store id = Ticket.take session.world.store id := by
  induction moves generalizing session with
  | nil =>
    obtain rfl := Option.some.inj played
    exact ⟨there, rfl⟩
  | cons move rest ih =>
    obtain ⟨next, moved, played⟩ := Option.bind_eq_some_iff.mp played
    obtain ⟨same, untouched⟩ := (keeping_cons moved).mp untouched
    obtain ⟨rows, note⟩ := ih played ((same trivial).trans there) untouched
    exact ⟨rows, note.trans (take_of_move moved there (same trivial))⟩

/-- What is asked below rows in a world when the lineage was learnt: the next page of the commits
that the scope shows, from behind the rows, or from the start if the rows are of another lineage. -/
def Cached.pageQuestion? (cached : Cached) (world : World) (repository : Repository)
    (lineage : Lineage) : Option Question :=
  repository.source.map fun source =>
    { source
      query := .page (world.store.scope.ids lineage) world.pageSize
        (if cached.lineage = lineage then cached.graph.size else 0) }

/-- Whoever has noted the rows in a world asks below them, whenever that is. -/
theorem question?_of_noted {cached : Cached} {now : World}
    (there : world.store.cached.get? repository.id = some cached)
    (size : now.pageSize = world.pageSize) (gate : Nat) (lineage : Lineage) :
    (Fetch.askPage gate (.take world.store repository.id) lineage).question? now repository =
      cached.pageQuestion? world repository lineage := by
  have skip : ((Ticket.take world.store repository.id).graph lineage).size =
      if cached.lineage = lineage then cached.graph.size else 0 := by
    rw [Ticket.graph, Ticket.take, there]
    simp only [Option.map_some]
    split <;> rfl
  have query : (Ticket.take world.store repository.id).pageQuery now.pageSize lineage =
      .page (world.store.scope.ids lineage) world.pageSize
        (if cached.lineage = lineage then cached.graph.size else 0) := by
    rw [Ticket.pageQuery, skip, size]
    rfl
  cases held : repository.source with
  | none => rw [Fetch.question?, Cached.pageQuestion?, held]; rfl
  | some source =>
    rw [Fetch.question?, Cached.pageQuestion?, held]
    exact congrArg (fun query => some (Question.mk source query)) query

/-- A fetch of rows that are wanted and that nobody else touches asks below them before it ends, and
the page that comes of it is appended to them. -/
theorem FetchCourse.of_wanted {cached : Cached} {last : Fetch}
    (course : FetchCourse task repository session .lookup moves final last)
    (source : repository.source ≠ none)
    (there : session.world.store.cached.get? repository.id = some cached)
    (wanted : cached.wantsMore = true)
    (alone : session.Keeping (· ≠ task) (SameCached repository.id) moves) :
    (∀ gate ticket lineage, last = .askPage gate ticket lineage →
      ticket = .take session.world.store repository.id) ∧
    (∀ result, last = .done result → told task moves ≠ []) ∧
    ∀ rows lineage page, last = .done (.ok rows) →
      told task moves = [.lineage (.ok (some lineage)), .page (.ok page)] →
      final.world.store.cached.get? repository.id = some
        { lineage, graph := (Ticket.take session.world.store repository.id).grown lineage page
          wantsMore := false, loadingMore := cached.loadingMore } ∧
      rows = ((Ticket.take session.world.store repository.id).grown lineage page).rows := by
  have begun : Fetch.lookup.Appends repository cached (.take session.world.store repository.id) []
      session.world.store := ⟨⟨Or.inl rfl, there, rfl, nofun⟩, nofun⟩
  have appends := FetchCourse.appends wanted course begun rfl alone
  rw [List.nil_append] at appends
  refine ⟨?_, ?_, ?_⟩
  · rintro gate ticket lineage rfl
    exact appends.1.noted ticket rfl
  · rintro result rfl
    cases result with
    | ok rows => exact (appends.resolve_left source).1
    | error fault => exact appends.2 _ rfl
  · rintro rows lineage page rfl heard
    exact (appends.resolve_left source).2 lineage page heard

/-- A fetch that is refused has changed nothing that is known about repositories, whatever others
have done meanwhile. A request for more that is refused has changed the marks of its rows alone; and
if nobody else has touched the rows, they are there as before and one more page is wanted. So
whoever fetches them next asks what the request has asked, a page from behind the same rows, and
appends the page that comes of it for the same lineage once. -/
theorem refusals_keep_rows (session : Session) (task : Nat) (repository : Repository)
    (moves : List Move) (final : Session) (fault : Fault) :
    (FetchCourse task repository session .lookup moves final (.done (.error fault)) →
      session.Keeping (· = task) Silent moves) ∧
    (RequestCourse task repository session .guard moves final (.done (.error fault)) →
      session.Keeping (· = task) (Remarked repository.id) moves ∧
      (session.Keeping (· ≠ task) (SameCached repository.id) moves →
        ∃ cached, session.world.store.cached.get? repository.id = some cached ∧
          final.world.store.cached.get? repository.id = some cached.wanted ∧
          (∀ earlier rest middle gate ticket lineage, moves = earlier ++ rest →
            RequestCourse task repository session .guard earlier middle
              (.fetching (.askPage gate ticket lineage)) →
            ticket = .take session.world.store repository.id ∧
              (Fetch.askPage gate ticket lineage).question? middle.world repository =
                cached.pageQuestion? session.world repository lineage) ∧
          ∀ between later number following last stage, final.play between = some later →
            final.Keeping (fun _ => True) (SameCached repository.id) between →
            FetchCourse number repository later .lookup following last stage →
            later.Keeping (· ≠ number) (SameCached repository.id) following →
            (∀ gate ticket lineage, stage = .askPage gate ticket lineage →
              ticket = .take session.world.store repository.id ∧
                ticket.graph cached.lineage = cached.graph ∧
                stage.question? last.world repository =
                  cached.pageQuestion? session.world repository lineage) ∧
            (∀ result, stage = .done result → told number following ≠ []) ∧
            ∀ rows page, stage = .done (.ok rows) →
              told number following =
                [.lineage (.ok (some cached.lineage)), .page (.ok page)] →
              last.world.store.cached.get? repository.id = some
                { cached with
                  graph := cached.graph.extend page
                    (.ofLineage cached.lineage (session.world.store.scope = .all))
                    cached.lineage.revision
                  wantsMore := false, loadingMore := false } ∧
              rows = (cached.graph.extend page
                (.ofLineage cached.lineage (session.world.store.scope = .all))
                cached.lineage.revision).rows)) := by
  refine ⟨fun course => ?_, fun course => ⟨?_, fun alone => ?_⟩⟩
  · exact (course.keeping (fun advanced may => Fetch.silent_of_advance advanced may) trivial).2
  · exact (course.keeping (fun advanced may => LoadMore.remarked_of_advance advanced may) trivial).2
  have begun : LoadMore.guard.Extends repository
      (session.world.store.cached.get? repository.id)
      (.take session.world.store repository.id) [] session.world.store :=
    ⟨rfl, rfl, fun _ _ => rfl⟩
  obtain ⟨source, ⟨cached, there, wanted⟩, note⟩ := RequestCourse.extends course begun alone
  refine ⟨cached, there, wanted, fun earlier rest middle gate ticket lineage split before => ?_,
    fun between later number following last stage after untouched next alone => ?_⟩
  · subst split
    have alone := ((throughout_append before.play).mp alone).1
    obtain ⟨-, _, -, asks⟩ := RequestCourse.extends before begun alone
    obtain rfl := asks.1.noted ticket rfl
    exact ⟨rfl, question?_of_noted there (pageSize_of_play before.play) gate lineage⟩
  · obtain ⟨rows, noted⟩ := take_of_keeping after wanted untouched
    obtain ⟨asks, asked, appends⟩ := FetchCourse.of_wanted next source rows rfl alone
    rw [noted, note] at asks appends
    refine ⟨fun gate ticket lineage own => ?_, asked, fun shown page own heard => ?_⟩
    · obtain rfl := asks gate ticket lineage own
      have size : last.world.pageSize = session.world.pageSize := by
        rw [pageSize_of_play next.play, pageSize_of_play after, pageSize_of_play course.play]
      refine ⟨rfl, ?_, own ▸ question?_of_noted there size gate lineage⟩
      simp [Ticket.graph, Ticket.take, there]
    · have grown : (Ticket.take session.world.store repository.id).grown cached.lineage page =
          cached.graph.extend page
            (.ofLineage cached.lineage (session.world.store.scope = .all))
            cached.lineage.revision := by
        simp [Ticket.grown, Ticket.graph, Ticket.take, there]
      rw [← grown]
      exact appends shown cached.lineage page own heard

/-- A source that is out of reach. -/
def unreachable : Fault := .source "mock" "out of reach"

/-- What a request for more is told that is refused its page. -/
def refusal : List (Option Reply) :=
  List.replicate 6 none ++ [some (.lineage (.ok (some sampleLineage))),
    some (.page (.error unreachable)), none]

/-- What a fetch is told that gets its page. -/
def reception : List (Option Reply) :=
  List.replicate 5 none ++ [some (.lineage (.ok (some sampleLineage))),
    some (.page (.ok (samplePage "2"))), none]

/-- A request for more is refused, and the next fetch gets the page. Both have asked for one commit
from behind the first. -/
theorem refusals_keep_rows_refusal :
    ∃ session final later last cached asking waiting,
      RequestCourse 1 sampleRepository session .guard (refusal.map (.advance 1)) final
        (.done (.error unreachable)) ∧
      session.Keeping (· ≠ 1) (SameCached ⟨"r"⟩) (refusal.map (.advance 1)) ∧
      session.Keeping (· = 1) (Remarked ⟨"r"⟩) (refusal.map (.advance 1)) ∧
      session.world.store.cached.get? ⟨"r"⟩ = some cached ∧
      final.world.store.cached.get? ⟨"r"⟩ = some cached.wanted ∧
      final.play [.start (.fetch sampleRepository)] = some later ∧
      later.play (reception.map (.advance 2)) = some last ∧
      last.world.store.cached.get? ⟨"r"⟩ = some
        { cached with
          graph := cached.graph.extend (samplePage "2") (.ofLineage cached.lineage false)
            cached.lineage.revision
          wantsMore := false, loadingMore := false } ∧
      session.play ((refusal.take 7).map (.advance 1)) = some asking ∧
      asking.question? 1 = some { source := 0, query := .page sampleLineage.ids 1 1 } ∧
      later.play ((reception.take 6).map (.advance 2)) = some waiting ∧
      waiting.question? 2 = asking.question? 1 := by
  let requested := sampleRun ++ [.start (.loadMore sampleRepository)]
  let refused := requested ++ refusal.map (.advance 1)
  let fetching := refused ++ [.start (.fetch sampleRepository)]
  let fetched := fetching ++ reception.map (.advance 2)
  have played : (sampleAfter requested).play (refusal.map (.advance 1)) =
      some (sampleAfter refused) := play_sampleAfter rfl
  have after : (sampleAfter fetching).play (reception.map (.advance 2)) =
      some (sampleAfter fetched) := play_sampleAfter rfl
  obtain ⟨stage, ended, course⟩ := exists_requestCourse played
    (rfl : (sampleAfter requested).activities[1]? = some (.loadMore sampleRepository .guard))
  obtain rfl : LoadMore.done (.error unreachable) = stage := by cases ended; rfl
  obtain ⟨stage, ended, next⟩ := exists_fetchCourse after
    (rfl : (sampleAfter fetching).activities[2]? = some (.fetch sampleRepository .lookup))
  obtain ⟨rows, rfl⟩ : ∃ rows, stage = .done (.ok rows) := by cases ended; exact ⟨_, rfl⟩
  have alone := keeping_of_alone (SameCached ⟨"r"⟩) (sampleAfter requested) 1 refusal
  obtain ⟨marks, kept⟩ :=
    (refusals_keep_rows _ 1 sampleRepository _ _ unreachable).2 course
  obtain ⟨cached, there, wanted, -, resumed⟩ := kept alone
  have started : (sampleAfter refused).play [.start (.fetch sampleRepository)] =
      some (sampleAfter fetching) := rfl
  obtain ⟨-, -, appended⟩ := resumed _ _ 2 _ _ _ started
    (keeping_start _ (sampleAfter refused) _ rfl) next
    (keeping_of_alone _ (sampleAfter fetching) 2 reception)
  have lineage : cached.lineage = sampleLineage := by
    cases there
    rfl
  obtain ⟨stored, -⟩ := appended rows (samplePage "2") rfl (by rw [lineage]; rfl)
  have asking : (sampleAfter requested).play ((refusal.take 7).map (.advance 1)) =
      some (sampleAfter (requested ++ (refusal.take 7).map (.advance 1))) := play_sampleAfter rfl
  have waiting : (sampleAfter fetching).play ((reception.take 6).map (.advance 2)) =
      some (sampleAfter (fetching ++ (reception.take 6).map (.advance 2))) := play_sampleAfter rfl
  have asks : (sampleAfter (requested ++ (refusal.take 7).map (.advance 1))).question? 1 =
      some { source := 0, query := .page sampleLineage.ids 1 1 } := rfl
  have waits : (sampleAfter (fetching ++ (reception.take 6).map (.advance 2))).question? 2 =
      some { source := 0, query := .page sampleLineage.ids 1 1 } := rfl
  exact ⟨_, _, _, _, cached, _, _, course, alone, marks, there, wanted, started, after, stored,
    asking, asks, waiting, waits.trans asks.symm⟩

end CommitHistory.Session
