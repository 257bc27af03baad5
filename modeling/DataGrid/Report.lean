import DataGrid.Columns.SnapshotWriter
import DataGrid.Grid

/-!
# Reports

The JSON forms in which a host reads a grid: its layout, overlays, selection, painted cells and
notices.
-/

namespace DataGrid.Report

/-- A length in pixels; one that is not finite is `null`. -/
def length (x : Float32) : Json := Json.ofFloat32 x

/-- Nothing as `null`. -/
def optional {β : Type} (write : β → Json) : Option β → Json
  | none => .null
  | some x => write x

def list {β : Type} (write : β → Json) (items : List β) : Json := .array (items.map write)

def slot : Slot → Json
  | .rowHandle => .object [("kind", .text "rowHandle")]
  | .tree => .object [("kind", .text "treeIndent")]
  | .shown i => .object [("kind", .text "active"), ("index", .ofNat i)]

def band : Band → Json
  | .header => .text "header"
  | .filter => .text "filter"
  | .data => .text "data"

def gridCell (c : GridCell) : Json := .object [("x", slot c.x), ("y", .ofNat c.y)]

def dataCell (c : DataCell) : Json :=
  .object [("x", c.x.toJson), ("y", .ofNat c.y), ("subgrid", band c.band)]

def point (p : Point Float32) : Json := .object [("x", length p.x), ("y", length p.y)]

def rect (r : Rect Float32) : Json :=
  .object [("x", length r.x), ("y", length r.y), ("width", length r.width),
    ("height", length r.height)]

def bar (b : Bar Float32) : Json :=
  .object [("x", length b.x), ("y", length b.y), ("length", length b.length),
    ("thickness", length b.thickness)]

def placedColumn (c : PlacedColumn Float32) : Json :=
  .object [("index", .ofNat c.index), ("column", slot c.slot), ("kind", c.id.toJson),
    ("left", length c.left), ("width", length c.width)]

def placedRow (r : PlacedRow Float32) : Json :=
  .object [("index", .ofNat r.index), ("rowIndex", .ofNat r.row), ("subgrid", band r.band),
    ("top", length r.top), ("height", length r.height)]

def layout (l : Layout Float32) : Json :=
  .object [("columns", list placedColumn l.columns), ("rows", list placedRow l.rows)]

def overlays (o : Overlays Float32) : Json :=
  .object [("columnFloater", optional rect o.floater), ("dropIndicator", optional bar o.dropBar),
    ("fixationBar", optional bar o.fixedColumnBar), ("rowFixationBar", optional bar o.fixedRowBar)]

def rangeKind : RangeKind → Json
  | .cells => .text "cellRange"
  | .rows => .text "rowRange"
  | .columns => .text "columnRange"

def range (r : Range) : Json :=
  .object [("selectionType", rangeKind r.kind), ("startRow", .ofNat r.startRow),
    ("startCol", .ofNat r.startColumn), ("endRow", .ofNat r.endRow),
    ("endCol", .ofNat r.endColumn)]

def selection (s : Selection) : Json := .object [("ranges", list range s.ranges)]

/-- The members of a notice after its name. -/
def noticeMembers : Notice Float32 → List (String × Json)
  | .columnResized column before after =>
    [("column", column.toJson), ("before", length before), ("after", length after)]
  | .columnsReordered before after | .shownColumnsChanged before after =>
    [("before", list ColumnId.toJson before), ("after", list ColumnId.toJson after)]
  | .fixedColumnsChanged before after | .fixedRowsChanged before after =>
    [("before", .ofNat before), ("after", .ofNat after)]
  | .selectionChanged => []
  | .contextMenuRequested p grid data =>
    [("point", point p), ("gridCell", gridCell grid), ("dataCell", dataCell data)]

def notice (n : Notice Float32) : Json := .object (("type", .text n.name) :: noticeMembers n)

def paintedCell (c : PaintedCell Float32) : Json :=
  .object [("gridCell", gridCell c.gridCell), ("dataCell", dataCell c.dataCell),
    ("bounds", rect c.bounds), ("text", .text c.text), ("selected", .bool c.isSelected),
    ("hovered", .bool c.isHovered), ("fixed", .bool c.isFixed)]

/-- The painted cells of a grid. -/
def cells {σ φ : Type} [DataSource σ] (g : Grid Float32 σ φ) : Json :=
  list paintedCell g.model.scene.painted

/-- All that can be read of a grid, with what its listeners have been told. -/
def grid {σ φ : Type} [DataSource σ] (g : Grid Float32 σ φ) : Json :=
  .object
    [("state", g.model.snapshot.toJson),
     ("layout", layout g.model.layout),
     ("overlays", overlays g.model.overlays),
     ("events", list (fun d => notice d.notice) g.notifier.deliveries),
     ("cells", cells g)]

end DataGrid.Report
