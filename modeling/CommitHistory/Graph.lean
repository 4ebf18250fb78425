/-
# The commit graph

Commits come in pages, newest first. Each gets a row with the lanes that enter it
from above and the lanes that leave it below; a lane is named by the commit that it
leads to. A page is laid below the rows that are there already, which stay as they
are.

## Main definitions

* `Lane.carry` — the lanes that go on below a commit.
* `Graph.layRow`, `Graph.layRows` — one row, and the rows of a page.
* `Graph.extend` — a graph with one more page.
-/

import CommitHistory.Palette

namespace CommitHistory

/-- A lane leads down to the commit that is named by its target. -/
structure Lane where
  target : String
  color : Color
deriving DecidableEq, Repr

/-- Whether a row shows the commit that is checked out. -/
inductive RowKind where
  | head
  | node
deriving DecidableEq, Repr

/-- A label with the colour that its title has. -/
structure ColoredLabel where
  label : Label
  color : Option Color
deriving DecidableEq, Repr

/-- A commit with the lanes around it. -/
structure Row where
  commit : Commit
  kind : RowKind
  input : List Lane
  output : List Lane
  labels : List ColoredLabel
deriving DecidableEq, Repr

/-- The column of the commit: its first input lane, or the column right of all of them. -/
def Row.nodeIndex (row : Row) : Nat := row.input.findIdx (·.target = row.commit.id)

namespace Lane

/-- The lanes that go on below a commit. A lane to another commit goes on as it is. The first
lane to the commit goes on to the commit's first parent, in the given colour if there is one;
all other lanes to the commit end. -/
def carry (commit : Commit) (color : Option Color) : Bool → List Lane → List Lane
  | _, [] => []
  | placed, lane :: rest =>
    if lane.target ≠ commit.id then lane :: carry commit color placed rest
    else if placed then carry commit color placed rest
    else match commit.parents with
      | [] => carry commit color placed rest
      | parent :: _ => ⟨parent, color.getD lane.color⟩ :: carry commit color true rest

/-- Opens a lane for each parent in the colour that is given with it, or in the next rotating
colour. The second result is the rotating colour used last. -/
def openEach : Option Nat → List (String × Option Color) → List Lane × Option Nat
  | last, [] => ([], last)
  | last, (parent, some color) :: rest =>
    let opened := openEach last rest
    (⟨parent, color⟩ :: opened.1, opened.2)
  | last, (parent, none) :: rest =>
    let index := Color.next last
    let opened := openEach (some index) rest
    (⟨parent, .lane index⟩ :: opened.1, opened.2)

end Lane

/-- The rows laid so far and the rotating colour used last. -/
structure Graph where
  rows : List Row
  lastColor : Option Nat
deriving DecidableEq, Repr

namespace Graph

/-- The graph without rows. -/
def empty : Graph := ⟨[], none⟩

/-- How many rows there are. -/
def size (graph : Graph) : Nat := graph.rows.length

/-- The lanes that leave the last row. -/
def openLanes (graph : Graph) : List Lane := (graph.rows.getLast?.map Row.output).getD []

/-- What every row of a page is laid with: the colours, the commits of the page itself and
the commit that is checked out. -/
structure Setting where
  palette : Palette
  page : List Commit
  head : Option String

/-- The commit of the page with an identifier. Of several the last one counts. -/
def Setting.find? (setting : Setting) (id : String) : Option Commit :=
  setting.page.reverse.find? (·.id = id)

/-- The colour that the labels of a parent give to the lane that leads to it. It is looked up
in the parent's own page only. -/
def Setting.parentColor (setting : Setting) (parent : String) : Option Color :=
  (setting.find? parent).bind setting.palette.labelColor

/-- The parents to which a commit opens lanes, with the colours that labels give them. The
first parent needs a lane only if the commit is on no input lane, and takes the colour of the
commit. -/
def Setting.opened (setting : Setting) (commit : Commit) (input : List Lane) :
    List (String × Option Color) :=
  match commit.parents with
  | [] => []
  | first :: further =>
    let others := further.map fun parent => (parent, setting.parentColor parent)
    -- On an input lane the first parent goes on in the lane of the commit.
    if input.any (·.target = commit.id) then others
    else (first, setting.palette.labelColor commit) :: others

/-- The row of one commit below the given lanes, and the rotating colour used last. -/
def layRow (setting : Setting) (input : List Lane) (last : Option Nat) (commit : Commit) :
    Row × Option Nat :=
  let carried := Lane.carry commit (setting.palette.labelColor commit) false input
  let opened := Lane.openEach last (setting.opened commit input)
  ({ commit
     kind := if setting.head = some commit.id then .head else .node
     input
     output := carried ++ opened.1
     labels := commit.labels.map fun label => ⟨label, setting.palette.get? label.title⟩ },
   opened.2)

/-- The rows of commits in order, each below the one before. -/
def layRows (setting : Setting) : List Lane → Option Nat → List Commit → List Row × Option Nat
  | _, last, [] => ([], last)
  | input, last, commit :: rest =>
    let laid := layRow setting input last commit
    let below := layRows setting laid.1.output laid.2 rest
    (laid.1 :: below.1, below.2)

/-- The graph with one more page. -/
def extend (graph : Graph) (page : List Commit) (palette : Palette) (head : Option String) :
    Graph :=
  let laid := layRows ⟨palette, page, head⟩ graph.openLanes graph.lastColor page
  ⟨graph.rows ++ laid.1, laid.2⟩

/-- The rows of commits that make a page of their own. -/
def rowsOf (page : List Commit) (palette : Palette) (head : Option String) : List Row :=
  (empty.extend page palette head).rows

end Graph

end CommitHistory
