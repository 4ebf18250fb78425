/-
# Cutting a history into pages

A page is laid commit by commit, and each row depends on the lanes below the row above it.
The page as a whole matters in one place only: the colour of a lane to a further parent of a
merge is looked up among the commits of the page. So however a list of commits is cut into
pages, the rows are the same up to the colours of their lanes, and if the cuts change none
of those lookups they are the same altogether.

## Main definitions

* `Graph.add` — a graph with one more commit.
* `Graph.extendAll` — a graph with several more pages.
* `Row.SameOutline` — two rows differ in the colours of their lanes at most.

## Main results

* `Graph.extend_eq_foldl` — a page is laid commit by commit.
* `Graph.extendAll_eq_extend_flatten` — cutting a history into pages changes colours at most,
  and only by looking up fewer commits.
-/

import CommitHistory.Proofs.Graph.Pages
import Mathlib.Data.List.Forall2

namespace CommitHistory

namespace Graph

/-- The graph with one more commit, which is laid below its last row. -/
def add (setting : Setting) (graph : Graph) (commit : Commit) : Graph :=
  let laid := layRow setting graph.openLanes graph.lastColor commit
  ⟨graph.rows ++ [laid.1], laid.2⟩

/-- The graph with several more pages, which are laid one below the other. -/
def extendAll (graph : Graph) (pages : List (List Commit)) (palette : Palette)
    (head : Option String) : Graph :=
  pages.foldl (fun graph page => graph.extend page palette head) graph

@[simp] theorem openLanes_add (setting : Setting) (graph : Graph) (commit : Commit) :
    (graph.add setting commit).openLanes =
      (layRow setting graph.openLanes graph.lastColor commit).1.output := by
  simp [add, openLanes]

theorem layRows_eq_foldl_add (setting : Setting) (graph : Graph) (commits : List Commit) :
    (⟨graph.rows ++ (layRows setting graph.openLanes graph.lastColor commits).1,
      (layRows setting graph.openLanes graph.lastColor commits).2⟩ : Graph) =
        commits.foldl (add setting) graph := by
  induction commits generalizing graph with
  | nil => simp [layRows]
  | cons commit rest ih =>
    rw [List.foldl_cons, ← ih, openLanes_add]
    simp [layRows, add]

/-- A page is laid commit by commit. -/
theorem extend_eq_foldl (graph : Graph) (page : List Commit) (palette : Palette)
    (head : Option String) :
    graph.extend page palette head = page.foldl (add ⟨palette, page, head⟩) graph :=
  layRows_eq_foldl_add ⟨palette, page, head⟩ graph page

theorem rows_prefix_extendAll (graph : Graph) (pages : List (List Commit)) (palette : Palette)
    (head : Option String) : graph.rows <+: (graph.extendAll pages palette head).rows := by
  induction pages generalizing graph with
  | nil => exact List.prefix_refl _
  | cons page rest ih => exact (rows_prefix_extend graph page palette head).trans (ih _)

end Graph

/-! ### Rows up to the colours of their lanes -/

/-- Two rows show the same commit with the same labels, and have the same lanes in the same
order, in whatever colours. -/
structure Row.SameOutline (row other : Row) : Prop where
  commit : row.commit = other.commit
  kind : row.kind = other.kind
  labels : row.labels = other.labels
  input : row.input.map Lane.target = other.input.map Lane.target
  output : row.output.map Lane.target = other.output.map Lane.target
  nodeIndex : row.nodeIndex = other.nodeIndex

theorem Row.SameOutline.refl (row : Row) : row.SameOutline row := ⟨rfl, rfl, rfl, rfl, rfl, rfl⟩

namespace Lane

variable {lanes others : List Lane}

theorem findIdx_target (lanes : List Lane) (id : String) :
    lanes.findIdx (·.target = id) = (lanes.map target).findIdx (· = id) := by
  rw [List.findIdx_map]
  rfl

theorem any_target (lanes : List Lane) (id : String) :
    lanes.any (·.target = id) = (lanes.map target).any (· = id) := by
  rw [List.any_map]
  rfl

/-- Where the lanes go on to does not depend on their colours. -/
theorem map_target_carry (same : lanes.map target = others.map target) (commit : Commit)
    (color color' : Option Color) (placed : Bool) :
    (carry commit color placed lanes).map target =
      (carry commit color' placed others).map target := by
  induction lanes generalizing others placed with
  | nil =>
    rw [List.map_nil, eq_comm, List.map_eq_nil_iff] at same
    rw [same]
    rfl
  | cons lane rest ih =>
    cases others with
    | nil => cases same
    | cons lane' rest' =>
      obtain ⟨first, rest⟩ := List.cons.inj same
      have ih := fun placed => ih rest placed
      unfold carry
      rw [← first]
      split
      · simp [first, ih]
      · split
        · exact ih placed
        · split <;> simp [ih]

@[simp] theorem map_target_openEach (last : Option Nat) (parents : List (String × Option Color)) :
    (openEach last parents).1.map target = parents.map Prod.fst := by
  induction parents generalizing last with
  | nil => rfl
  | cons parent rest ih =>
    obtain ⟨parent, _ | color⟩ := parent <;> simp [openEach, ih]

end Lane

namespace Graph

/-- A commit that is on an input lane opens lanes to its further parents only. -/
theorem Setting.map_fst_opened (setting : Setting) (commit : Commit) (input : List Lane) :
    (setting.opened commit input).map Prod.fst =
      if input.any (·.target = commit.id) then commit.parents.tail else commit.parents := by
  unfold opened
  split
  next none => simp [none]
  next first further parents =>
    rw [parents]
    split <;> simp [Function.comp_def]

/-- Two graphs have the same rows up to the colours of lanes. -/
def SameOutline (graph other : Graph) : Prop :=
  List.Forall₂ Row.SameOutline graph.rows other.rows

theorem SameOutline.refl (graph : Graph) : graph.SameOutline graph :=
  List.forall₂_same.mpr fun row _ => .refl row

theorem map_target_openLanes {graph other : Graph} (same : graph.SameOutline other) :
    graph.openLanes.map Lane.target = other.openLanes.map Lane.target := by
  have upwards := List.forall₂_reverse_iff.mpr same
  unfold openLanes
  rw [List.getLast?_eq_head?_reverse, List.getLast?_eq_head?_reverse]
  generalize graph.rows.reverse = rows at upwards ⊢
  generalize other.rows.reverse = others at upwards ⊢
  cases upwards with
  | nil => rfl
  | cons first _ => exact first.output

/-- The row of a commit depends on the page and on the colours above it in the colours of its
lanes only. -/
theorem layRow_sameOutline {setting other : Setting} (palette : setting.palette = other.palette)
    (head : setting.head = other.head) {input input' : List Lane}
    (above : input.map Lane.target = input'.map Lane.target) (last last' : Option Nat)
    (commit : Commit) :
    (layRow setting input last commit).1.SameOutline (layRow other input' last' commit).1 where
  commit := rfl
  kind := by simp only [layRow, head]
  labels := by simp only [layRow, palette]
  input := above
  output := by
    simp only [layRow, List.map_append, Lane.map_target_openEach, Setting.map_fst_opened,
      Lane.any_target, above]
    rw [Lane.map_target_carry above commit _ (other.palette.labelColor commit)]
  nodeIndex := by
    have columns := congrArg (List.findIdx (· = commit.id)) above
    rw [← Lane.findIdx_target, ← Lane.findIdx_target] at columns
    exact columns

theorem SameOutline.add {graph other : Graph} (same : graph.SameOutline other)
    (setting setting' : Setting) (palette : setting.palette = setting'.palette)
    (head : setting.head = setting'.head) (commit : Commit) :
    (graph.add setting commit).SameOutline (other.add setting' commit) := by
  have row := layRow_sameOutline palette head (map_target_openLanes same) graph.lastColor
    other.lastColor commit
  exact List.rel_append same (List.Forall₂.cons row .nil)

/-- Pages show the same as the whole list of their commits. -/
theorem SameOutline.extendAll {graph other : Graph} (same : graph.SameOutline other)
    (setting : Setting) (pages : List (List Commit)) :
    (graph.extendAll pages setting.palette setting.head).SameOutline
      (pages.flatten.foldl (Graph.add setting) other) := by
  induction pages generalizing graph other with
  | nil => exact same
  | cons page rest ih =>
    rw [List.flatten_cons, List.foldl_append]
    apply ih
    simp only [extend_eq_foldl]
    exact List.foldl_rel same fun commit _ _ _ above =>
      above.add ⟨setting.palette, page, setting.head⟩ setting rfl rfl commit

/-! ### Lookups that the cuts do not change -/

/-- Two settings give a lane to every further parent of a commit the same colour. -/
def AgreeOn (setting other : Setting) (commit : Commit) : Prop :=
  ∀ parent ∈ commit.parents.tail, setting.parentColor parent = other.parentColor parent

theorem Setting.opened_congr {setting other : Setting} {commit : Commit}
    (agree : AgreeOn setting other commit) (palette : setting.palette = other.palette)
    (input : List Lane) :
    setting.opened commit input = other.opened commit input := by
  unfold AgreeOn at agree
  unfold opened
  cases parents : commit.parents with
  | nil => rfl
  | cons first further =>
    rw [parents, List.tail_cons] at agree
    have others : (further.map fun parent => (parent, setting.parentColor parent)) =
        further.map fun parent => (parent, other.parentColor parent) :=
      List.map_congr_left fun parent member => by rw [agree parent member]
    simp only [others, palette]

theorem add_congr {setting other : Setting} {commit : Commit}
    (agree : AgreeOn setting other commit) (palette : setting.palette = other.palette)
    (head : setting.head = other.head) (graph : Graph) :
    graph.add setting commit = graph.add other commit := by
  simp only [add, layRow, palette, head, Setting.opened_congr agree palette]

/-- If no lookup finds another colour in a page than in the whole list, the pages make the same
graph as the whole list. -/
theorem extendAll_eq_foldl_add (setting : Setting) {pages : List (List Commit)}
    (agree : ∀ page ∈ pages, ∀ commit ∈ page,
      AgreeOn ⟨setting.palette, page, setting.head⟩ setting commit) (graph : Graph) :
    graph.extendAll pages setting.palette setting.head =
      pages.flatten.foldl (add setting) graph := by
  induction pages generalizing graph with
  | nil => rfl
  | cons page rest ih =>
    obtain ⟨first, rest⟩ := List.forall_mem_cons.mp agree
    have laid : graph.extend page setting.palette setting.head =
        page.foldl (add setting) graph := by
      rw [extend_eq_foldl]
      exact List.foldl_ext _ _ graph fun above commit member =>
        add_congr (first commit member) rfl rfl above
    rw [List.flatten_cons, List.foldl_append, ← laid]
    exact ih rest _

/-- A parent without a coloured label is not given a colour by any page that shows it. -/
theorem Setting.parentColor_eq_none {setting : Setting} {parent : String}
    (plain : ∀ commit ∈ setting.page, commit.id = parent →
      setting.palette.labelColor commit = none) : setting.parentColor parent = none := by
  unfold parentColor
  cases found : setting.find? parent with
  | none => rfl
  | some commit =>
    have member := List.mem_reverse.mp (List.mem_of_find?_eq_some found)
    have named : commit.id = parent := by simpa using List.find?_some found
    exact plain commit member named

/-- Laying a history page by page leaves the rows of every page as they are when later pages come,
and shows the same rows as laying it at once, up to the colours of lanes. If every further parent
of a merge has the same colour in the commit's own page as in the whole history, in particular if
no further parent has a coloured label, both make the same graph with all its colours, and go on
with the same rotating colour. -/
theorem extendAll_eq_extend_flatten (graph : Graph) (pages : List (List Commit))
    (palette : Palette) (head : Option String) :
    (∀ earlier later, pages = earlier ++ later →
      (graph.extendAll earlier palette head).rows <+: (graph.extendAll pages palette head).rows) ∧
    (graph.extendAll pages palette head).SameOutline
      (graph.extend pages.flatten palette head) ∧
    ((∀ page ∈ pages, ∀ commit ∈ page, ∀ parent ∈ commit.parents.tail,
        Setting.parentColor ⟨palette, page, head⟩ parent =
          Setting.parentColor ⟨palette, pages.flatten, head⟩ parent) →
      graph.extendAll pages palette head = graph.extend pages.flatten palette head) ∧
    ((∀ commit ∈ pages.flatten, ∀ merge ∈ pages.flatten, commit.id ∈ merge.parents.tail →
        palette.labelColor commit = none) →
      graph.extendAll pages palette head = graph.extend pages.flatten palette head) := by
  have equal (agree : ∀ page ∈ pages, ∀ commit ∈ page,
      AgreeOn ⟨palette, page, head⟩ ⟨palette, pages.flatten, head⟩ commit) :
      graph.extendAll pages palette head = graph.extend pages.flatten palette head := by
    rw [extend_eq_foldl]
    exact extendAll_eq_foldl_add ⟨palette, pages.flatten, head⟩ agree graph
  refine ⟨?_, ?_, equal, ?_⟩
  · rintro earlier later rfl
    have split : graph.extendAll (earlier ++ later) palette head =
        (graph.extendAll earlier palette head).extendAll later palette head := List.foldl_append
    rw [split]
    exact rows_prefix_extendAll _ later palette head
  · rw [extend_eq_foldl]
    exact (SameOutline.refl graph).extendAll ⟨palette, pages.flatten, head⟩ pages
  · intro plain
    apply equal
    intro page shown merge member parent further
    have whole {commit : Commit} (member : commit ∈ page) : commit ∈ pages.flatten :=
      List.mem_flatten.mpr ⟨page, shown, member⟩
    -- Neither the page nor the whole history has a colour for the parent.
    rw [Setting.parentColor_eq_none, Setting.parentColor_eq_none]
    · rintro commit here rfl
      exact plain commit here merge (whole member) further
    · rintro commit here rfl
      exact plain commit (whole here) merge (whole member) further

/-- A commit of which only its place in the history and its labels are known. -/
def bareCommit (id : String) (parents titles : List String) : Commit :=
  { id, parents, message := "", author := "", email := none, time := ⟨0, 0⟩, statistics := none
    labels := titles.map fun title => ⟨title, .branch⟩ }

/-- A merge with a labelled parent, and the commit from which both branches come. -/
def mergedPages : List (List Commit) :=
  [[bareCommit "m" ["a", "f"] [], bareCommit "f" ["a"] ["main"]], [bareCommit "a" [] []]]

theorem extendAll_eq_extend_flatten_mergedPages :
    (∀ page ∈ mergedPages, ∀ commit ∈ page, ∀ parent ∈ commit.parents.tail,
      Setting.parentColor ⟨Palette.empty.put "main" .branch, page, some "m"⟩ parent =
        Setting.parentColor ⟨Palette.empty.put "main" .branch, mergedPages.flatten, some "m"⟩
          parent) ∧
    empty.extendAll mergedPages (Palette.empty.put "main" .branch) (some "m") =
      empty.extend mergedPages.flatten (Palette.empty.put "main" .branch) (some "m") := by
  have agree : ∀ page ∈ mergedPages, ∀ commit ∈ page, ∀ parent ∈ commit.parents.tail,
      Setting.parentColor ⟨Palette.empty.put "main" .branch, page, some "m"⟩ parent =
        Setting.parentColor ⟨Palette.empty.put "main" .branch, mergedPages.flatten, some "m"⟩
          parent := by decide
  exact ⟨agree, (extendAll_eq_extend_flatten empty mergedPages _ _).2.2.1 agree⟩

/-- A cut between a merge and its labelled parent changes a colour. -/
example :
    empty.extendAll [[bareCommit "m" ["a", "f"] []], [bareCommit "f" ["a"] ["main"]]]
        (Palette.empty.put "main" .branch) none ≠
      empty.extend [bareCommit "m" ["a", "f"] [], bareCommit "f" ["a"] ["main"]]
        (Palette.empty.put "main" .branch) none := by decide

end Graph

end CommitHistory
