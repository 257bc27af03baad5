import DataGrid.Feature.Step

/-!
# Selecting cells

A press on a data cell begins a range of cells, and a drag reaches from there to the cell under the
pointer.  A drag that leaves the cells scrolls the grid, one step with each timer.  The arrow keys
step from cell to cell; with shift they reach on from where the range began, and with control they
go to the edge of the table.
-/

namespace DataGrid

/-- A cell by its row in the table and its column among the shown ones. -/
structure CellPlace where
  row : Nat
  column : Nat
deriving DecidableEq

/-- The scrolling that goes on while cells are being selected. -/
structure DragScroll where
  columns : Int
  rows : Int
  /-- The timer of the next step. -/
  timer : TimerToken

/-- How cells are being selected. -/
structure CellSelection (α : Type) where
  /-- The cell that a range reaches from. -/
  anchor : Option CellPlace
  /-- The cell that a range reaches to, from which keys step on. -/
  focus : Option CellPlace
  dragging : Bool
  pointer : Option (Point α)
  scroll : Option DragScroll

namespace CellSelection

variable {α σ : Type}

/-- Nothing is dragged and there is nothing to reach from. -/
def idle : CellSelection α := ⟨none, none, false, none, none⟩

/-- The data cell that a pointer is on. -/
def placeOf? (c : PointedCell α) : Option CellPlace :=
  if c.cell.isDataCell then c.cell.shownIndex?.map fun i => ⟨c.cell.row.row, i⟩ else none

/-- The range from one cell to another. -/
def rangeTo (start stop : CellPlace) : Range :=
  .cells start.row start.column stop.row stop.column

/-- Where a step leads that is limited to indexes below `count`; `toEdge` goes all the way. -/
def step (index : Nat) (delta : Int) (count : Nat) (toEdge : Bool) : Nat :=
  let last := count - 1
  if delta = 0 then min index last
  else if toEdge then (if delta < 0 then 0 else last)
  else min (Viewport.stepBy index delta) last

/-- Reach on to a cell, if there is something to reach from. -/
def extendTo (s : CellSelection α) (m : Model α σ) (cell : CellPlace) :
    CellSelection α × Model α σ :=
  match s.anchor with
  | none => (s, m)
  | some anchor =>
    let next := rangeTo anchor cell
    ({ s with focus := some cell },
      if m.selection.last? .cells = some next then m
      else m.select (m.selection.extendLast next))

/-- Reach on to a cell, if there is one. -/
def extendTo? (s : CellSelection α) (m : Model α σ) (cell? : Option CellPlace) :
    CellSelection α × Model α σ :=
  match cell? with
  | none => (s, m)
  | some cell => s.extendTo m cell

/-- End a drag. -/
def stopDrag (s : CellSelection α) : CellSelection α :=
  { s with dragging := false, pointer := none, scroll := none }

variable [Pixel α] [DataSource σ]

/-- Which way a pointer at a position makes the grid scroll: towards the side of the scrolling cells
that it has left, if the grid can be scrolled there. -/
def dragDirection (m : Model α σ) (p : Point α) : Int × Int :=
  let right := Pixel.lesser m.layout.rightEdge m.viewport.width
  let bottom := Pixel.lesser m.layout.bottomEdge m.viewport.height
  (if p.x < m.fixedEdge ∧ 0 < m.viewport.scrollLeft then -1
    else if right ≤ p.x ∧ m.viewport.scrollLeft < m.limits.left then 1
    else 0,
    if p.y < m.fixedRowEdge ∧ 0 < m.viewport.scrollTop then -1
    else if bottom ≤ p.y ∧ m.viewport.scrollTop < m.limits.top then 1
    else 0)

omit [DataSource σ] in
/-- A position pulled into the data cells on the screen. -/
def pullIn (m : Model α σ) (column : PlacedColumn α) (row : PlacedRow α) (p : Point α) :
    Point α :=
  let one := Pixel.ofNat 1
  let right := Pixel.lesser m.layout.rightEdge m.viewport.width - one
  let bottom := Pixel.lesser m.layout.bottomEdge m.viewport.height - one
  ⟨Pixel.clamp p.x column.left (Pixel.greater right column.left),
    Pixel.clamp p.y row.top (Pixel.greater bottom row.top)⟩

omit [DataSource σ] in
/-- The data cell on the screen that is nearest to a position. -/
def nearestCell? (m : Model α σ) (p : Point α) : Option CellPlace := do
  let column ← m.layout.shownColumns.head?
  let row ← m.layout.dataRows.head?
  let hit ← m.toFrame.cellAt? (pullIn m column row p)
  if hit.row.band = .data then
    return ⟨hit.row.row, ← hit.column.slot.shownIndex?⟩
  else none

omit [DataSource σ] in
/-- Whether the right edge of a shown column is on the screen. -/
def isColumnInView (m : Model α σ) (column : Nat) : Bool :=
  (m.layout.bySlot? (.shown column)).any fun c => c.right ≤ m.viewport.width

omit [DataSource σ] in
/-- Whether the bottom edge of a data row is on the screen. -/
def isRowInView (m : Model α σ) (row : Nat) : Bool :=
  (m.layout.byRow? row .data).any fun r => r.bottom ≤ m.viewport.height

/-- Scroll to the right, at most `left` columns, until a column is in view or is the first one that
scrolls. -/
def revealColumnBy (column : Nat) : (left : Nat) → Model α σ → Model α σ
  | 0, m => m
  | left + 1, m =>
    if isColumnInView m column then m
    else
      match m.scrollBy? 1 0 with
      | none => m
      | some m => revealColumnBy column left m

/-- Scroll down, at most `left` rows, until a row is in view or is the first one that scrolls. -/
def revealRowBy (row : Nat) : (left : Nat) → Model α σ → Model α σ
  | 0, m => m
  | left + 1, m =>
    if isRowInView m row then m
    else
      match m.scrollBy? 0 1 with
      | none => m
      | some m => revealRowBy row left m

/-- Scroll no further than needed to bring a column into view. -/
def revealColumn (m : Model α σ) (column : Nat) : Model α σ :=
  let fixed := m.fixedColumns
  let first := fixed + m.viewport.scrollLeft
  if column < fixed then m
  else if column < first then m.scrollTo (column - fixed) m.viewport.scrollTop
  else revealColumnBy column (column - first) m

/-- Scroll no further than needed to bring a row into view. -/
def revealRow (m : Model α σ) (row : Nat) : Model α σ :=
  let fixed := m.config.fixedRows
  let first := fixed + m.viewport.scrollTop
  if row < fixed then m
  else if row < first then m.scrollTo m.viewport.scrollLeft (row - fixed)
  else revealRowBy row (row - first) m

/-- Scroll no further than needed to bring a cell into view. -/
def reveal (m : Model α σ) (cell : CellPlace) : Model α σ :=
  revealRow (revealColumn m cell.column) cell.row

/-- Scroll one step, reach on to the cell nearest to the pointer, and set the timer for the next
step; stop where the grid ends. -/
def scrollStep (s : CellSelection α) (columns rows : Int) (t : GridTurn α σ) :
    CellSelection α × GridTurn α σ :=
  match t.model.scrollBy? columns rows with
  | none => ({ s with scroll := none }, t)
  | some m =>
    let (s, m) := s.extendTo? m (s.pointer.bind (nearestCell? m))
    let (timer, t) := { t with model := m }.schedule m.config.selectScrollInterval
    ({ s with scroll := some ⟨columns, rows, timer⟩ }, t)

/-- Scroll while the pointer is beyond the cells. -/
def dragScroll (s : CellSelection α) (p : Point α) (t : GridTurn α σ) :
    CellSelection α × GridTurn α σ :=
  match dragDirection t.model p with
  | (0, 0) => ({ s with scroll := none }, t)
  | (columns, rows) =>
    if s.scroll.any fun d => d.columns = columns && d.rows = rows then (s, t)
    else s.scrollStep columns rows t

omit [Pixel α] [DataSource σ] in
/-- Begin a range at a cell, or reach on to it. -/
def press (s : CellSelection α) (e : PointerEvent α) (cell : CellPlace) (m : Model α σ) :
    CellSelection α × Model α σ :=
  let s := { s with focus := some cell, dragging := true, pointer := some e.point, scroll := none }
  match e.modifiers.shift, s.anchor with
  | true, some anchor => (s, m.select (m.selection.extendLast (rangeTo anchor cell)))
  | _, _ =>
    ({ s with anchor := some cell },
      m.select (m.selection.push (rangeTo cell cell) e.modifiers.toggle))

/-- The steps of the arrow keys: down and to the right. -/
def arrow? : String → Option (Int × Int)
  | "ArrowUp" => some (-1, 0)
  | "ArrowDown" => some (1, 0)
  | "ArrowLeft" => some (0, -1)
  | "ArrowRight" => some (0, 1)
  | _ => none

/-- The cell from which an arrow key steps, if cells are selected. -/
def steppingFrom? (s : CellSelection α) (m : Model α σ) : Option CellPlace :=
  if m.rowCount = 0 ∨ m.columns.shownCount = 0 then none
  else (m.selection.last? .cells).bind fun _ => s.focus.or s.anchor

omit [Pixel α] [DataSource σ] in
/-- Select one cell. -/
def selectCell (s : CellSelection α) (m : Model α σ) (cell : CellPlace) :
    CellSelection α × Model α σ :=
  ({ s with anchor := some cell, focus := some cell },
    m.selectIfNew (m.selection.push (rangeTo cell cell) false))

/-- Step on with an arrow key. -/
def stepOn (s : CellSelection α) (m : Model α σ) (start : CellPlace) (delta : Int × Int)
    (modifiers : Modifiers) : CellSelection α × Model α σ :=
  let toEdge := modifiers.toggle
  let next : CellPlace :=
    ⟨step start.row delta.1 m.rowCount toEdge,
      step start.column delta.2 m.columns.shownCount toEdge⟩
  let (s, m) := if modifiers.shift then s.extendTo m next else s.selectCell m next
  (s, reveal m next)

/-- Select all cells, if there are any. -/
def selectAll? (s : CellSelection α) (m : Model α σ) : Option (CellSelection α × Model α σ) :=
  if m.rowCount = 0 ∨ m.columns.shownCount = 0 then none
  else
    let last : CellPlace := ⟨m.rowCount - 1, m.columns.shownCount - 1⟩
    some ({ s with anchor := some ⟨0, 0⟩, focus := some last },
      m.select (m.selection.push (rangeTo ⟨0, 0⟩ last) false))

/-- What a key does, if it does something. -/
def key? (s : CellSelection α) (e : KeyEvent) (m : Model α σ) :
    Option (CellSelection α × Model α σ) :=
  if e.key = "Escape" then
    if m.selection.isEmpty then none
    else some ({ s.stopDrag with anchor := none, focus := none }, m.select .empty)
  else if e.key = "a" || e.key = "A" then
    if e.modifiers.toggle then s.selectAll? m else none
  else do
    let delta ← arrow? e.key
    let start ← s.steppingFrom? m
    return s.stepOn m start delta e.modifiers

/-- Answer an input. -/
def handle (s : CellSelection α) (input : Input α) (t : GridTurn α σ) :
    Step (CellSelection α) (Model α σ) :=
  match input with
  | .pointer .down e =>
    match if e.button = .primary then e.cell?.bind placeOf? else none with
    | none => .pass s t
    | some cell =>
      let (s, m) := s.press e cell t.model
      .stop s { t with model := m }
  | .pointer .drag e =>
    if !s.dragging then .pass s t
    else
      let (s, t) := { s with pointer := some e.point }.dragScroll e.point t
      let cell? := (e.cell?.bind placeOf?).or (nearestCell? t.model e.point)
      let (s, m) := s.extendTo? t.model cell?
      .stop s { t with model := m }
  | .pointer .up _ => if s.dragging then .stop s.stopDrag t else .pass s.stopDrag t
  | .key .down e =>
    match s.key? e t.model with
    | none => .pass s t
    | some (s, m) => .stop s { t with model := m }
  | _ => .pass s t

/-- Scroll on when the timer of the next step goes off. -/
def fire (s : CellSelection α) (timer : TimerToken) (t : GridTurn α σ) :
    CellSelection α × GridTurn α σ :=
  match s.scroll.filter fun d => s.dragging && d.timer = timer with
  | none => (s, t)
  | some d => s.scrollStep d.columns d.rows t

end CellSelection

end DataGrid
