/-
# Graphs laid page by page

The graph of a history grows by pages that belong to one lineage and one scope. Laying a
page adds one row for each of its commits, in their order. No colour comes from anywhere
but the palette and the rotation, so a history of the lineage alone, whose palette has no
wildcard, has nothing in the neutral colour.

## Main definitions

* `Graph.ofPages` — the graph of pages of one lineage and one scope.
* `Row.Colored` — all colours of a row have a property.

## Main results

* `Graph.map_commit_rows_ofPages` — the commits of the rows are those of the pages.
* `Graph.ofPages_colored` — colours come from the palette and the rotation.
* `Graph.ofPages_lineage_colored` — the history of a lineage alone has nothing neutral.
-/

import CommitHistory.Graph
import CommitHistory.Scope
import Mathlib.Data.List.Induction

namespace CommitHistory

namespace Graph

/-- The graph of pages of a lineage, which are laid one below the other. -/
def ofPages (lineage : Lineage) (scope : Scope) (pages : List (List Commit)) : Graph :=
  pages.foldl
    (fun graph page => graph.extend page (.ofLineage lineage (scope = .all)) lineage.revision)
    .empty

variable (lineage : Lineage) (scope : Scope) (pages : List (List Commit))

theorem ofPages_concat (page : List Commit) :
    ofPages lineage scope (pages ++ [page]) =
      (ofPages lineage scope pages).extend page (.ofLineage lineage (scope = .all))
        lineage.revision := by
  rw [ofPages, List.foldl_append]
  rfl

/-! ### Rows and commits -/

theorem map_commit_layRows (setting : Setting) (input : List Lane) (last : Option Nat)
    (commits : List Commit) : (layRows setting input last commits).1.map Row.commit = commits := by
  induction commits generalizing input last with
  | nil => rfl
  | cons commit rest ih => rw [layRows, List.map_cons, ih]; rfl

/-- The rows of a page come below the rows that are there. -/
theorem exists_rows_extend (graph : Graph) (page : List Commit) (palette : Palette)
    (head : Option String) :
    ∃ below, (graph.extend page palette head).rows = graph.rows ++ below ∧
      below.map Row.commit = page :=
  ⟨_, rfl, map_commit_layRows ..⟩

theorem rows_prefix_extend (graph : Graph) (page : List Commit) (palette : Palette)
    (head : Option String) : graph.rows <+: (graph.extend page palette head).rows :=
  List.prefix_append _ _

/-- The rows show the commits of the pages in their order. -/
theorem map_commit_rows_ofPages :
    (ofPages lineage scope pages).rows.map Row.commit = pages.flatten := by
  induction pages using List.reverseRecOn with
  | nil => rfl
  | append_singleton pages page ih =>
    obtain ⟨below, rows, commits⟩ := exists_rows_extend (ofPages lineage scope pages) page
      (.ofLineage lineage (scope = .all)) lineage.revision
    rw [ofPages_concat, rows, List.map_append, ih, commits, List.flatten_concat]

theorem size_ofPages : (ofPages lineage scope pages).size = pages.flatten.length := by
  rw [← map_commit_rows_ofPages lineage scope, List.length_map, size]

end Graph

/-! ### Colours -/

/-- All colours of a row, those of its lanes and those of its labels, have a property. -/
structure Row.Colored (holds : Color → Prop) (row : Row) : Prop where
  input : ∀ lane ∈ row.input, holds lane.color
  output : ∀ lane ∈ row.output, holds lane.color
  labels : ∀ label ∈ row.labels, ∀ color, label.color = some color → holds color

/-- The colours of a palette have a property. -/
def Palette.Colored (holds : Color → Prop) (palette : Palette) : Prop :=
  ∀ title color, palette.get? title = some color → holds color

variable {holds : Color → Prop} {palette : Palette}

theorem Palette.Colored.labelColor (colored : palette.Colored holds) {commit : Commit}
    {color : Color} (found : palette.labelColor commit = some color) : holds color := by
  unfold Palette.labelColor at found
  split at found
  next own =>
    obtain ⟨label, -, get⟩ := List.exists_of_findSome?_eq_some own
    cases found
    exact colored label.title color get
  next =>
    split at found
    next => cases found
    next => exact colored wildcard color found

namespace Lane

theorem carry_colored {commit : Commit} {color : Option Color}
    (own : ∀ known, color = some known → holds known) {placed : Bool} {lanes : List Lane}
    (above : ∀ lane ∈ lanes, holds lane.color) :
    ∀ lane ∈ carry commit color placed lanes, holds lane.color := by
  induction lanes generalizing placed with
  | nil => exact above
  | cons lane rest ih =>
    obtain ⟨first, rest⟩ := List.forall_mem_cons.mp above
    unfold carry
    split
    next => exact List.forall_mem_cons.mpr ⟨first, ih rest⟩
    next =>
      split
      next => exact ih rest
      next =>
        split
        next => exact ih rest
        next parent _ =>
          refine List.forall_mem_cons.mpr ⟨?_, ih rest⟩
          cases color with
          | none => exact first
          | some known => exact own known rfl

theorem openEach_colored (rotating : ∀ last, holds (.lane (Color.next last))) {last : Option Nat}
    {parents : List (String × Option Color)}
    (known : ∀ parent ∈ parents, ∀ color, parent.2 = some color → holds color) :
    ∀ lane ∈ (openEach last parents).1, holds lane.color := by
  induction parents generalizing last with
  | nil => exact fun _ member => absurd member List.not_mem_nil
  | cons parent rest ih =>
    obtain ⟨first, rest⟩ := List.forall_mem_cons.mp known
    obtain ⟨parent, _ | color⟩ := parent
    · exact List.forall_mem_cons.mpr ⟨rotating last, ih rest⟩
    · exact List.forall_mem_cons.mpr ⟨first color rfl, ih rest⟩

end Lane

namespace Graph

/-- The lanes that a commit opens take the colours of labels, if they have any. -/
theorem Setting.opened_colored {setting : Setting} (colored : setting.palette.Colored holds)
    {commit : Commit} {input : List Lane} :
    ∀ parent ∈ setting.opened commit input, ∀ color, parent.2 = some color → holds color := by
  have others (further : List String) :
      ∀ parent ∈ further.map fun parent => (parent, setting.parentColor parent),
        ∀ color, parent.2 = some color → holds color := by
    intro parent member color found
    obtain ⟨id, -, rfl⟩ := List.mem_map.mp member
    obtain ⟨commit, -, found⟩ := Option.bind_eq_some_iff.mp found
    exact colored.labelColor found
  unfold opened
  split
  next => exact fun _ member => absurd member List.not_mem_nil
  next first further _ =>
    split
    next => exact others further
    next => exact List.forall_mem_cons.mpr ⟨fun _ found => colored.labelColor found, others further⟩

variable (setting : Setting)

theorem layRow_colored (rotating : ∀ last, holds (.lane (Color.next last)))
    (colored : setting.palette.Colored holds) {input : List Lane}
    (above : ∀ lane ∈ input, holds lane.color) (last : Option Nat) (commit : Commit) :
    (layRow setting input last commit).1.Colored holds where
  input := above
  output lane member := by
    obtain carried | opened := List.mem_append.mp member
    · exact Lane.carry_colored (fun _ found => colored.labelColor found) above lane carried
    · exact Lane.openEach_colored rotating (Setting.opened_colored colored) lane opened
  labels label member color found := by
    obtain ⟨label, -, rfl⟩ := List.mem_map.mp member
    exact colored label.title color found

theorem layRows_colored (rotating : ∀ last, holds (.lane (Color.next last)))
    (colored : setting.palette.Colored holds) {input : List Lane}
    (above : ∀ lane ∈ input, holds lane.color) (last : Option Nat) (commits : List Commit) :
    ∀ row ∈ (layRows setting input last commits).1, row.Colored holds := by
  induction commits generalizing input last with
  | nil => exact fun _ member => absurd member List.not_mem_nil
  | cons commit rest ih =>
    have first := layRow_colored setting rotating colored above last commit
    exact List.forall_mem_cons.mpr ⟨first, ih first.output _⟩

theorem exists_row_of_mem_openLanes {graph : Graph} {lane : Lane}
    (member : lane ∈ graph.openLanes) : ∃ row ∈ graph.rows, lane ∈ row.output := by
  unfold openLanes at member
  cases last : graph.rows.getLast? with
  | none => simp [last] at member
  | some row =>
    rw [last] at member
    exact ⟨row, List.mem_of_getLast? last, member⟩

theorem extend_colored (rotating : ∀ last, holds (.lane (Color.next last)))
    (colored : palette.Colored holds) {graph : Graph}
    (above : ∀ row ∈ graph.rows, row.Colored holds) (page : List Commit) (head : Option String) :
    ∀ row ∈ (graph.extend page palette head).rows, row.Colored holds := by
  -- The lanes above the page are those that its last row hands down.
  have lanes : ∀ lane ∈ graph.openLanes, holds lane.color := by
    intro lane member
    obtain ⟨row, here, leaves⟩ := exists_row_of_mem_openLanes member
    exact (above row here).output lane leaves
  intro row member
  obtain old | new := List.mem_append.mp member
  · exact above row old
  · exact layRows_colored ⟨palette, page, head⟩ rotating colored lanes _ page row new

/-- Every colour in a graph is a colour of the palette or a rotating one. -/
theorem ofPages_colored (rotating : ∀ last, holds (.lane (Color.next last))) {lineage : Lineage}
    {scope : Scope} (colored : (Palette.ofLineage lineage (scope = .all)).Colored holds)
    (pages : List (List Commit)) :
    ∀ row ∈ (ofPages lineage scope pages).rows, row.Colored holds := by
  induction pages using List.reverseRecOn with
  | nil => exact fun _ member => absurd member List.not_mem_nil
  | append_singleton pages page ih =>
    rw [ofPages_concat]
    exact extend_colored rotating colored ih page lineage.revision

end Graph

namespace Palette

theorem colored_put (colored : palette.Colored holds) (title : String) {color : Color}
    (own : holds color) : (palette.put title color).Colored holds := by
  intro other found get
  rw [get?, put, List.lookup_cons] at get
  split at get
  next => cases get; exact own
  next => exact colored other found get

/-- The palette of a lineage without the wildcard has the three colours of the lineage. -/
theorem colored_ofLineage {lineage : Lineage} (branch : holds .branch) (remote : holds .remote)
    (base : holds .base) : (ofLineage lineage false).Colored holds := by
  have own : ((empty.put lineage.name .branch).Colored holds) :=
    colored_put (fun _ _ get => nomatch get) lineage.name branch
  unfold ofLineage
  -- The remote and the base may each be missing.
  cases lineage.remote <;> cases lineage.base
  · exact own
  · exact colored_put own _ base
  · exact colored_put own _ remote
  · exact colored_put (colored_put own _ remote) _ base

end Palette

/-- In the history of a lineage alone nothing has the neutral colour. -/
theorem Graph.ofPages_lineage_colored (lineage : Lineage) (pages : List (List Commit)) :
    ∀ row ∈ (ofPages lineage .lineage pages).rows, row.Colored (· ≠ .neutral) :=
  ofPages_colored (fun _ same => nomatch same)
    (Palette.colored_ofLineage (fun same => nomatch same) (fun same => nomatch same)
      fun same => nomatch same) pages

end CommitHistory
