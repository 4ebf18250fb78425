/-
# Where the lanes of a row go on

The node of a commit stands in the column of the first lane that leads to it, or right of all
lanes if there is none. The lanes left of it go on where they are. Below the node the first
parent takes over its column, then come the lanes right of it, less those that end at the
commit, and last a lane for each further parent. So in a graph, however its pages were laid,
every lane keeps its colour until the commit that it leads to is shown.

## Main definitions

* `Graph.places` — the commits of pages, each with the setting of its page.
* `Graph.above` — the graph above a place.
* `Row.columnColor` — the colour of the lane that goes on in the column of the node.

## Main results

* `Lane.carry_eq` — the lanes that go on below a commit, in closed form.
* `Graph.rows_laid_chained` — every row continues the lanes of the row above it.
* `Graph.geometry_of_laid` — where the lanes of every row of a graph go on.
-/

import CommitHistory.Proofs.Graph.OpenLanes

namespace CommitHistory

/-- The colour of the lane to the first parent of the commit: that of a label of the commit, or
that of the lane in whose column the node stands, or the next rotating one. -/
def Row.columnColor (row : Row) (palette : Palette) (last : Option Nat) : Color :=
  (palette.labelColor row.commit).getD
    ((row.input[row.nodeIndex]?.map Lane.color).getD (.lane (Color.next last)))

namespace Lane

variable {commit : Commit} {lanes : List Lane}

/-- At a root all lanes to it end. -/
theorem carry_of_parents_eq_nil (root : commit.parents = []) (color : Option Color)
    (placed : Bool) (lanes : List Lane) :
    carry commit color placed lanes = lanes.filter (·.target ≠ commit.id) := by
  induction lanes with
  | nil => rfl
  | cons lane rest ih =>
    by_cases here : lane.target = commit.id <;> simp [carry, here, root, ih]

/-- What goes on below a commit: the lanes left of its node, the first parent in the column of the
node if a lane leads there, and the lanes right of it that lead elsewhere. -/
theorem carry_eq (commit : Commit) (color : Option Color) (lanes : List Lane) :
    carry commit color false lanes =
      lanes.take (lanes.findIdx (·.target = commit.id)) ++
        (lanes[lanes.findIdx (·.target = commit.id)]?.bind fun lane =>
          commit.parents.head?.map fun parent => ⟨parent, color.getD lane.color⟩).toList ++
        (lanes.drop (lanes.findIdx (·.target = commit.id) + 1)).filter (·.target ≠ commit.id) := by
  induction lanes with
  | nil => rfl
  | cons lane rest ih =>
    by_cases here : lane.target = commit.id
    · -- The node stands in this column, so all of the rest is right of it.
      have column : (lane :: rest).findIdx (·.target = commit.id) = 0 := by
        simp [List.findIdx_cons, here]
      rw [column]
      cases parents : commit.parents with
      | nil =>
        rw [carry_of_parents_eq_nil parents]
        simp [here]
      | cons parent further =>
        have others := carry_placed commit color rest
        simp [carry, here, parents, others]
    · -- The lane is left of the node, whose column is one further right than in the rest.
      have column : (lane :: rest).findIdx (·.target = commit.id) =
          rest.findIdx (·.target = commit.id) + 1 := by
        simp [List.findIdx_cons, here]
      rw [column]
      simp [carry, here, ih]

/-- The first new lane has its own colour or the next rotating one. -/
theorem exists_openEach_cons (last : Option Nat) (target : String) (color : Option Color)
    (rest : List (String × Option Color)) :
    ∃ last', (openEach last ((target, color) :: rest)).1 =
      ⟨target, color.getD (.lane (Color.next last))⟩ :: (openEach last' rest).1 := by
  cases color with
  | none => exact ⟨some (Color.next last), rfl⟩
  | some color => exact ⟨last, rfl⟩

theorem findIdx_eq_length_of_off (off : ¬ lanes.any (·.target = commit.id)) :
    lanes.findIdx (·.target = commit.id) = lanes.length := by
  rw [List.findIdx_eq_length]
  simpa using off

end Lane

namespace Graph

variable {settings : List Setting} {graph : Graph} {row below : Row} {i j : Nat} {id : String}

/-! ### One row -/

/-- The closed form of the lanes below a commit. -/
theorem exists_output_layRow (setting : Setting) (input : List Lane) (last : Option Nat)
    (commit : Commit) {row : Row} (laid : row = (layRow setting input last commit).1) :
    ∃ further, row.output =
        row.input.take row.nodeIndex ++
          (row.commit.parents.head?.map
            (⟨·, row.columnColor setting.palette last⟩)).toList ++
          (row.input.drop (row.nodeIndex + 1)).filter (·.target ≠ row.commit.id) ++ further ∧
      further.map Lane.target = row.commit.parents.tail := by
  subst laid
  set row := (layRow setting input last commit).1 with shape
  have commitEq : row.commit = commit := rfl
  have inputEq : row.input = input := rfl
  have node : row.nodeIndex = input.findIdx (·.target = commit.id) := rfl
  have output : row.output = Lane.carry commit (setting.palette.labelColor commit) false input ++
      (Lane.openEach last (setting.opened commit input)).1 := rfl
  rw [output, Lane.carry_eq, commitEq, inputEq, node]
  by_cases onLane : input.any (·.target = commit.id)
  · -- The first parent goes on in the lane of the commit, the others get lanes of their own.
    refine ⟨(Lane.openEach last (setting.opened commit input)).1, ?_, ?_⟩
    · have inside : input.findIdx (·.target = commit.id) < input.length := by
        rw [List.findIdx_lt_length]
        simpa using onLane
      simp [Row.columnColor, commitEq, inputEq, node, inside]
    · rw [Lane.map_target_openEach, Setting.map_fst_opened, if_pos onLane]
  · -- The node stands right of all lanes, and no lane ends here.
    have column := Lane.findIdx_eq_length_of_off onLane
    have right : input.drop (input.length + 1) = [] := List.drop_eq_nil_of_le (Nat.le_succ _)
    rw [column]
    cases parents : commit.parents with
    | nil =>
      -- A root opens no lane.
      refine ⟨[], ?_, by simp⟩
      simp [Setting.opened, parents, Lane.openEach]
    | cons first others =>
      have opened : setting.opened commit input =
          (first, setting.palette.labelColor commit) ::
            others.map fun parent => (parent, setting.parentColor parent) := by
        simp only [Setting.opened, parents, if_neg onLane]
      obtain ⟨last', lanes⟩ := Lane.exists_openEach_cons last first
        (setting.palette.labelColor commit) (others.map fun parent =>
          (parent, setting.parentColor parent))
      rw [opened, lanes]
      refine ⟨(Lane.openEach last' (others.map fun parent =>
        (parent, setting.parentColor parent))).1, ?_, ?_⟩
      · simp [right, Row.columnColor, commitEq, inputEq, node, column]
      · simp [Function.comp_def]

/-! ### The places of a graph -/

/-- The commits of pages in their order, each with the setting of its page. -/
def places (settings : List Setting) : List (Setting × Commit) :=
  settings.flatMap fun setting => setting.page.map fun commit => (setting, commit)

/-- The graph of the commits of places. -/
def ofPlaces (places : List (Setting × Commit)) : Graph :=
  places.foldl (fun graph place => graph.add place.1 place.2) empty

/-- The graph above a place of pages. -/
def above (settings : List Setting) (i : Nat) : Graph := ofPlaces ((places settings).take i)

theorem ofPlaces_concat (places : List (Setting × Commit)) (place : Setting × Commit) :
    ofPlaces (places ++ [place]) = (ofPlaces places).add place.1 place.2 := by
  simp [ofPlaces, List.foldl_append]

/-- Pages are laid place by place. -/
theorem laid_eq_ofPlaces (settings : List Setting) :
    laid settings = ofPlaces (places settings) := by
  rw [laid, ofPlaces, places]
  generalize empty = graph
  induction settings generalizing graph with
  | nil => rfl
  | cons setting rest ih =>
    rw [List.foldl_cons, ih, extend_eq_foldl, List.flatMap_cons, List.foldl_append, List.foldl_map]

theorem length_rows_ofPlaces (places : List (Setting × Commit)) :
    (ofPlaces places).rows.length = places.length := by
  induction places using List.reverseRecOn with
  | nil => rfl
  | append_singleton places place ih => simp [ofPlaces_concat, add, ih]

/-- Every row of a graph was laid at its place, below the graph above it. -/
theorem getElem?_rows_ofPlaces (places : List (Setting × Commit)) (i : Nat) :
    (ofPlaces places).rows[i]? = places[i]?.map fun place =>
      (layRow place.1 (ofPlaces (places.take i)).openLanes (ofPlaces (places.take i)).lastColor
        place.2).1 := by
  induction places using List.reverseRecOn with
  | nil => simp [ofPlaces, empty]
  | append_singleton places place ih =>
    rw [ofPlaces_concat, add]
    rcases Nat.lt_trichotomy i places.length with before | rfl | after
    · -- A row above the last one is there already.
      rw [List.getElem?_append_left (by rw [length_rows_ofPlaces]; exact before), ih,
        List.getElem?_append_left before, List.take_append_of_le_length (by omega)]
    · rw [List.getElem?_append_right (Nat.le_of_eq (length_rows_ofPlaces places)),
        length_rows_ofPlaces]
      simp
    · rw [List.getElem?_eq_none (by simp [length_rows_ofPlaces]; omega),
        List.getElem?_eq_none (by simp; omega)]
      rfl

/-- At which place a row was laid, and below which lanes. -/
theorem exists_place (here : (laid settings).rows[i]? = some row) :
    ∃ setting, (places settings)[i]? = some (setting, row.commit) ∧
      row = (layRow setting (above settings i).openLanes (above settings i).lastColor
        row.commit).1 := by
  rw [laid_eq_ofPlaces, getElem?_rows_ofPlaces, Option.map_eq_some_iff] at here
  obtain ⟨⟨setting, commit⟩, place, rfl⟩ := here
  exact ⟨setting, place, rfl⟩

theorem openLanes_above_zero (settings : List Setting) : (above settings 0).openLanes = [] := by
  simp [above, ofPlaces, empty, openLanes]

/-- The lanes that leave a row are open below it. -/
theorem openLanes_above_succ (here : (laid settings).rows[i]? = some row) :
    (above settings (i + 1)).openLanes = row.output := by
  obtain ⟨setting, place, laid⟩ := exists_place here
  have further : (places settings).take (i + 1) =
      (places settings).take i ++ [(setting, row.commit)] := by
    rw [List.take_add_one, place]
    rfl
  rw [above, further, ofPlaces_concat, openLanes_add, laid]
  rfl

theorem input_eq_openLanes_above (here : (laid settings).rows[i]? = some row) :
    row.input = (above settings i).openLanes := by
  obtain ⟨setting, -, laid⟩ := exists_place here
  rw [laid]
  rfl

/-- No lane leads into the first row. -/
theorem input_first_laid (here : (laid settings).rows[0]? = some row) : row.input = [] := by
  rw [input_eq_openLanes_above here, openLanes_above_zero]

/-- Every further row continues the lanes of the row above it. -/
theorem input_next_laid (here : (laid settings).rows[i]? = some row)
    (next : (laid settings).rows[i + 1]? = some below) : below.input = row.output := by
  rw [input_eq_openLanes_above next, openLanes_above_succ here]

/-! ### Lanes on their way -/

/-- Lanes that lead elsewhere pass a commit in their order and with their colours. -/
theorem filter_sublist_carry (commit : Commit) (color : Option Color) (placed : Bool)
    (lanes : List Lane) :
    (lanes.filter (·.target ≠ commit.id)).Sublist (Lane.carry commit color placed lanes) := by
  induction lanes generalizing placed with
  | nil => exact List.Sublist.slnil
  | cons lane rest ih =>
    unfold Lane.carry
    split
    next elsewhere =>
      rw [List.filter_cons_of_pos (by simpa using elsewhere)]
      exact (ih placed).cons_cons lane
    next here =>
      -- Whatever becomes of a lane to the commit, it is not among those that pass.
      rw [List.filter_cons_of_neg (by simpa using here)]
      split
      · exact ih placed
      · split
        · exact ih placed
        · exact (ih true).cons _

/-- Lanes to a commit pass every row that does not show it. -/
theorem filter_input_sublist_output (here : (laid settings).rows[i]? = some row)
    (other : row.commit.id ≠ id) :
    (row.input.filter (·.target = id)).Sublist (row.output.filter (·.target = id)) := by
  obtain ⟨setting, -, laid⟩ := exists_place here
  have passing := filter_sublist_carry row.commit (setting.palette.labelColor row.commit) false
    row.input
  have output : row.output =
      Lane.carry row.commit (setting.palette.labelColor row.commit) false row.input ++
        (Lane.openEach (above settings i).lastColor
          (setting.opened row.commit row.input)).1 := by
    rw [input_eq_openLanes_above here]
    exact congrArg Row.output laid
  -- A lane to the commit in question does not lead to the commit of this row.
  have apart : (row.input.filter (·.target ≠ row.commit.id)).filter (·.target = id) =
      row.input.filter (·.target = id) := by
    rw [List.filter_filter]
    apply List.filter_congr
    intro lane _
    by_cases leads : lane.target = id
    · simp [leads, Ne.symm other]
    · simp [leads]
  rw [← apart, output]
  exact (passing.trans (List.sublist_append_left _ _)).filter _

/-- Lanes to a commit stay as they are as long as it is not shown. -/
theorem filter_output_sublist (here : (laid settings).rows[i]? = some row) (le : i ≤ j)
    (there : (laid settings).rows[j]? = some below)
    (others : ∀ m shown, i < m → m ≤ j → (laid settings).rows[m]? = some shown →
      shown.commit.id ≠ id) :
    (row.output.filter (·.target = id)).Sublist (below.output.filter (·.target = id)) := by
  induction le generalizing below with
  | refl =>
    cases Option.some.inj (here.symm.trans there)
    exact List.Sublist.refl _
  | @step j le ih =>
    -- The row between is there, as the one below it is.
    obtain ⟨inside, -⟩ := List.getElem?_eq_some_iff.mp there
    have between := List.getElem?_eq_getElem (Nat.lt_of_succ_lt inside)
    have before := ih between fun m shown after upTo =>
      others m shown after (Nat.le_succ_of_le upTo)
    have elsewhere := others (j + 1) below (Nat.lt_succ_of_le le) (Nat.le_refl _) there
    have pass := filter_input_sublist_output there elsewhere
    rw [input_next_laid between there] at pass
    exact before.trans pass

/-! ### Every row of a graph -/

/-- How the lanes around a row of a graph run. -/
structure Geometry (settings : List Setting) (i : Nat) (setting : Setting) (row : Row) :
    Prop where
  /-- The row shows the commit of its place, which belongs to a page with this setting. -/
  place : (places settings)[i]? = some (setting, row.commit)
  /-- Into the row lead the lanes that the rows above it leave open. -/
  input : row.input = (above settings i).openLanes
  /-- The node takes the lanes to its commit out, and puts those to the parents in. -/
  output : ∃ further, further.map Lane.target = row.commit.parents.tail ∧
    row.output =
      row.input.take row.nodeIndex ++
        (row.commit.parents.head?.map
          (⟨·, row.columnColor setting.palette (above settings i).lastColor⟩)).toList ++
        (row.input.drop (row.nodeIndex + 1)).filter (·.target ≠ row.commit.id) ++ further
  /-- Lanes left of the node do not move. -/
  left : ∀ column < row.nodeIndex, row.output[column]? = row.input[column]?
  /-- The first parent goes on in the column of the node. -/
  first : ∀ parent, row.commit.parents.head? = some parent →
    row.output[row.nodeIndex]? =
      some ⟨parent, row.columnColor setting.palette (above settings i).lastColor⟩
  /-- The lanes to a commit keep their order and their colours until it is shown. -/
  kept : ∀ id j below, i ≤ j → (laid settings).rows[j]? = some below →
    (∀ m shown, i < m → m ≤ j → (laid settings).rows[m]? = some shown → shown.commit.id ≠ id) →
    (row.output.filter (·.target = id)).Sublist (below.output.filter (·.target = id))

/-- However the pages of a graph were laid, the lanes around each of its rows run as the geometry
says. -/
theorem geometry_of_laid (here : (laid settings).rows[i]? = some row) :
    ∃ setting, Geometry settings i setting row := by
  obtain ⟨setting, place, laid⟩ := exists_place here
  obtain ⟨further, output, parents⟩ := exists_output_layRow setting _ _ _ laid
  have column : row.nodeIndex ≤ row.input.length := List.findIdx_le_length
  refine ⟨setting, ?_⟩
  constructor
  case place => exact place
  case input => exact input_eq_openLanes_above here
  case output => exact ⟨further, parents, output⟩
  case left =>
    intro other before
    rw [output, List.append_assoc, List.append_assoc,
      List.getElem?_append_left (by rw [List.length_take]; omega),
      List.getElem?_take_of_lt before]
  case first =>
    intro parent first
    rw [output, first, List.append_assoc, List.append_assoc,
      List.getElem?_append_right (by rw [List.length_take]; omega), List.length_take,
      Nat.min_eq_left column, Nat.sub_self]
    rfl
  case kept => exact fun id j below le there others => filter_output_sublist here le there others

/-- The settings of a merge with a labelled parent, and of the commit from which both come. -/
def mergedSettings : List Setting :=
  mergedPages.map fun page => ⟨Palette.empty.put "main" .branch, page, some "m"⟩

theorem geometry_of_laid_mergedSettings :
    ∃ row, (laid mergedSettings).rows[1]? = some row ∧ row.commit.id = "f" ∧
      ∃ setting, Geometry mergedSettings 1 setting row :=
  ⟨_, rfl, rfl, geometry_of_laid rfl⟩

end Graph

end CommitHistory
