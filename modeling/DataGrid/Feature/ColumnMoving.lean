import DataGrid.Feature.Step

/-!
# Moving columns

A press on a header takes hold of the column or, if the selected columns are a run of several that
scroll and the column is among them, of the run.  The features after this one see nothing until
the columns are let go of.  While they are dragged, a bar shows where they would be put; at an edge
of the viewport the grid scrolls, one column with each timer, and ever faster.
-/

namespace DataGrid

/-- The scrolling that goes on while columns are dragged at an edge of the viewport. -/
structure Autoscroll where
  /-- The columns to scroll by with each step. -/
  direction : Int
  /-- The steps that timers have made. -/
  attempt : Nat
  /-- The timer of the next step. -/
  timer : TimerToken

/-- Columns that the pointer holds. -/
structure ColumnDrag (α : Type) where
  /-- The index of the first of them among the shown columns. -/
  start : Nat
  count : Nat
  /-- Before which column they would be put, if that has been picked. -/
  target : Option Nat
  /-- The pointer as seen from the left edge of the columns when they were taken hold of. -/
  grabOffset : α
  floater : Rect α
  pointer : Point α
  autoscroll : Option Autoscroll

/-- How columns are being moved. -/
inductive ColumnMoving (α : Type) where
  | idle
  /-- Columns are held but have not been dragged. -/
  | armed (drag : ColumnDrag α)
  | dragging (drag : ColumnDrag α)

namespace ColumnMoving

variable {α σ : Type}

/-- The columns that are held. -/
def drag? : ColumnMoving α → Option (ColumnDrag α)
  | .idle => none
  | .armed d => some d
  | .dragging d => some d

variable [Pixel α] [DataSource σ]

omit [DataSource σ] in
/-- The run of columns, first and number, that a press on a column takes hold of. -/
def runFor (m : Model α σ) (column : Nat) : Nat × Nat :=
  let selected := m.selection.selectedColumns
  match selected.head?, selected.getLast? with
  | some first, some last =>
    if 1 < selected.length && m.fixedColumns ≤ first && first ≤ column && column ≤ last
        && Selection.isContiguous selected then (first, selected.length)
    else (column, 1)
  | _, _ => (column, 1)

omit [DataSource σ] in
/-- The bar in front of a column. -/
def dropBar (m : Model α σ) (target : Nat) : Bar α :=
  ⟨(m.start? (.shown target)).getD m.layout.rightEdge, Pixel.zero, m.layout.bottomEdge,
    m.config.insertLineWidth⟩

omit [DataSource σ] in
/-- Draw the bar in front of a column. -/
def showDropBar (m : Model α σ) (target : Nat) : Model α σ :=
  { m with overlays := { m.overlays with dropBar := some (dropBar m target) } }

omit [DataSource σ] in
/-- Draw the held columns. -/
def showFloater (m : Model α σ) (floater : Rect α) : Model α σ :=
  { m with overlays := { m.overlays with floater := some floater } }

omit [DataSource σ] in
/-- The column before which columns would be put at a position: neither a fixed one nor one that is
scrolled out behind them. -/
def target? (m : Model α σ) (x : α) : Option Nat :=
  (m.nearestColumn? x).map fun i => max i (m.fixedColumns + m.viewport.scrollLeft)

omit [DataSource σ] in
/-- Pick the place for the columns by the pointer, if there is one. -/
def aim (m : Model α σ) (d : ColumnDrag α) : Model α σ × ColumnDrag α :=
  match target? m d.pointer.x with
  | some target => (showDropBar m target, { d with target := some target })
  | none => (m, d)

/-- Which way a pointer near an edge makes the grid scroll, if it can. -/
def edgeDirection? (m : Model α σ) (x : α) : Option Int :=
  let threshold := m.config.autoscrollThreshold
  if x < threshold ∧ 0 < m.viewport.scrollLeft then some (-1)
  else if Pixel.lesser m.layout.rightEdge m.viewport.width - threshold < x
      ∧ m.viewport.scrollLeft < m.limits.left then some 1
  else none

/-- Scroll one column and set the timer for the next step; stop where the grid ends. -/
def scrollStep (d : ColumnDrag α) (direction : Int) (attempt : Nat) (t : GridTurn α σ) :
    ColumnDrag α × GridTurn α σ :=
  match t.model.scrollBy? direction 0 with
  | none => ({ d with autoscroll := none }, t)
  | some m =>
    let (m, d) := aim m d
    let (timer, t) := { t with model := m }.schedule (m.config.scrollDelay attempt)
    ({ d with autoscroll := some ⟨direction, attempt, timer⟩ }, t)

/-- The column whose header is pressed, if it can be moved. -/
def pressed? (m : Model α σ) (e : PointerEvent α) : Option (PointedCell α × Nat) :=
  if e.isPlainPress && m.config.columnsReorderable then
    (e.cell?.filter fun c => c.cell.isHeaderCell && !c.isColumnFixed).bind fun c =>
      c.cell.shownIndex?.map fun i => (c, i)
  else none

omit [DataSource σ] in
/-- Take hold of columns. -/
def grab (m : Model α σ) (e : PointerEvent α) (c : PointedCell α) (column : Nat) :
    ColumnDrag α :=
  let (start, count) := runFor m column
  let left := (m.start? (.shown start)).getD c.cell.column.left
  let widths := (List.range' start count).filterMap fun i => m.columns.width? (.shown i)
  { start := start
    count := count
    target := none
    grabOffset := e.point.x - left
    floater := ⟨left, Pixel.zero, Pixel.sum widths, m.layout.bottomEdge⟩
    pointer := e.point
    autoscroll := none }

omit [Pixel α] [DataSource σ] in
/-- Whether the pointer is on one of the held columns. -/
def overOwn (d : ColumnDrag α) (e : PointerEvent α) : Bool :=
  e.shownIndex?.any fun i => d.start ≤ i && i < d.start + d.count

/-- Let the held columns follow the pointer. -/
def follow (d : ColumnDrag α) (e : PointerEvent α) (t : GridTurn α σ) :
    ColumnDrag α × GridTurn α σ :=
  let d := { d with
    pointer := e.point
    floater := { d.floater with x := e.point.x - d.grabOffset } }
  let t := t.modify fun m => showFloater m d.floater
  match edgeDirection? t.model e.point.x with
  | some direction =>
    if d.autoscroll.any (·.direction = direction) then (d, t)
    else scrollStep d direction 0 t
  | none =>
    let d := { d with autoscroll := none }
    if overOwn d e then
      ({ d with target := none }, t.modify fun m => showDropBar m d.start)
    else
      let (m, d) := aim t.model d
      (d, { t with model := m })

omit [Pixel α] [DataSource σ] in
/-- Draw nothing for held columns. -/
def clearOverlays (m : Model α σ) : Model α σ :=
  { m with overlays := m.overlays.withoutColumnDrag }

/-- Put the columns where they were dragged to, and select them there. -/
def drop (d : ColumnDrag α) (m : Model α σ) : Model α σ :=
  match d.target with
  | none => m
  | some target =>
    match m.moveColumns? d.start d.count target with
    | none => m
    | some m =>
      let start := if d.start < target then target - d.count else target
      m.selectIfNew (m.selection.selectColumns start (start + d.count - 1))

/-- Answer an input. -/
def handle (s : ColumnMoving α) (input : Input α) (t : GridTurn α σ) :
    Step (ColumnMoving α) (Model α σ) :=
  match input with
  | .pointer .down e =>
    match pressed? t.model e with
    | none => .pass s t
    | some (c, column) =>
      let d := grab t.model e c column
      .stop (.armed d)
        (t.modify fun m => showDropBar (showFloater m d.floater) d.start).detach
  | .pointer .drag e =>
    match s.drag? with
    | none => .pass s t
    | some d =>
      let (d, t) := follow d e t
      .stop (.dragging d) t
  | .pointer .up _ =>
    let t' := (t.modify clearOverlays).reattachAfter t.model.config.reattachDelay
    match s with
    | .idle => .pass s t
    | .armed _ => .stop .idle t'
    | .dragging d => .stop .idle (t'.modify (drop d))
  | .key .down e =>
    if e.key = "Escape" && s.drag?.isSome then .stop .idle (t.modify clearOverlays).reattachNow
    else .pass s t
  | _ => .pass s t

/-- Scroll on when the timer of the next step goes off. -/
def fire (s : ColumnMoving α) (timer : TimerToken) (t : GridTurn α σ) :
    ColumnMoving α × GridTurn α σ :=
  match s with
  | .dragging d =>
    match d.autoscroll.filter (·.timer = timer) with
    | some a =>
      let (d, t) := scrollStep d a.direction (a.attempt + 1) t
      (.dragging d, t)
    | none => (s, t)
  | _ => (s, t)

/-- The shape of the pointer that holds columns. -/
def icon? : ColumnMoving α → Option PointerIcon
  | .idle => none
  | .armed _ => some .grab
  | .dragging _ => some .grabbing

end ColumnMoving

end DataGrid
