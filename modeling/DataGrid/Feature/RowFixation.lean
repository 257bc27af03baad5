import DataGrid.Feature.Step

/-!
# Fixing rows

The bottom edge of the fixed rows can be dragged in the row handle to another row.  At least one row
on the screen is left to scroll.
-/

namespace DataGrid

/-- How rows are being fixed. -/
structure RowFixation where
  /-- The number of rows that would be fixed now. -/
  dragging : Option Nat
  overHandle : Bool

namespace RowFixation

variable {α σ : Type} [Pixel α] [DataSource σ]

/-- Nothing is dragged. -/
def idle : RowFixation := ⟨none, false⟩

/-- How near to the edge the pointer has to be. -/
def reach (m : Model α σ) : α := m.config.fixedLineWidth / Pixel.ofNat 2 + m.config.resizeMargin

/-- Whether the pointer is on the edge, in the row handle. -/
def onHandle (m : Model α σ) (e : PointerEvent α) : Bool :=
  e.cell?.any (·.cell.isHandleColumn) && m.rowCount ≠ 0
    && Pixel.abs (e.point.y - m.fixedRowEdge) ≤ reach m

/-- The number of rows to fix for a position. -/
def target? (m : Model α σ) (y : α) : Option Nat := do
  let nearest ← m.nearestRow? y
  let last ← m.layout.dataRows.getLast?
  return min nearest last.row

/-- The bar that is drawn for a number of rows. -/
def bar (m : Model α σ) (count : Nat) : Bar α :=
  let y := ((m.layout.dataRows.find? (·.row = count)).map (·.top)).getD m.fixedRowEdge
  ⟨Pixel.zero, y, m.layout.rightEdge, m.config.fixedLineWidth⟩

/-- Draw a bar, or none. -/
def showBar (m : Model α σ) (bar : Option (Bar α)) : Model α σ :=
  { m with overlays := { m.overlays with fixedRowBar := bar } }

/-- Answer an input. -/
def handle (s : RowFixation) (input : Input α) (t : GridTurn α σ) :
    Step RowFixation (Model α σ) :=
  match input with
  | .pointer .move e => .pass { s with overHandle := onHandle t.model e } t
  | .pointer .down e =>
    if e.isPlainPress && onHandle t.model e then
      -- A row can be picked only if it is not scrolled out.
      let m := t.model.scrollTo t.model.viewport.scrollLeft 0
      let count := m.config.fixedRows
      .stop { s with dragging := some count } { t with model := showBar m (some (bar m count)) }
    else .pass s t
  | .pointer .drag e =>
    match s.dragging, target? t.model e.point.y with
    | none, _ => .pass s t
    | some _, none => .stop s t
    | some _, some count =>
      .stop { s with dragging := some count } (t.modify fun m => showBar m (some (bar m count)))
  | .pointer .up _ =>
    match s.dragging with
    | none => .pass s t
    | some count =>
      .stop { s with dragging := none } (t.modify fun m => (showBar m none).setFixedRows count)
  | .key .down e =>
    if e.key = "Escape" && s.dragging.isSome then
      .stop { s with dragging := none } (t.modify fun m => showBar m none)
    else .pass s t
  | _ => .pass s t

/-- The shape of the pointer on the edge. -/
def icon? (s : RowFixation) : Option PointerIcon :=
  if s.dragging.isSome || s.overHandle then some .rowResize else none

end RowFixation

end DataGrid
