import DataGrid.Feature.Step

/-!
# Fixing columns

The right edge of the fixed columns can be dragged in the header to another column.  At least one
column on the screen is left to scroll.
-/

namespace DataGrid

/-- How columns are being fixed. -/
structure ColumnFixation where
  /-- The number of columns that would be fixed now. -/
  dragging : Option Nat
  overHandle : Bool

namespace ColumnFixation

variable {α σ : Type} [Pixel α] [DataSource σ]

/-- Nothing is dragged. -/
def idle : ColumnFixation := ⟨none, false⟩

/-- How near to the edge the pointer has to be. -/
def reach (m : Model α σ) : α := m.config.fixedLineWidth / Pixel.ofNat 2 + m.config.resizeMargin

/-- Whether the pointer is on the edge, in the header. -/
def onHandle (m : Model α σ) (e : PointerEvent α) : Bool :=
  e.cell?.any (·.cell.isHeaderRow) && m.columns.shownCount ≠ 0
    && Pixel.abs (e.point.x - m.fixedEdge) ≤ reach m

/-- The number of columns to fix for a position. -/
def target? (m : Model α σ) (x : α) : Option Nat := do
  let nearest ← m.nearestColumn? x
  let last ← m.layout.shownColumns.getLast?
  return min nearest (← last.slot.shownIndex?)

/-- The bar that is drawn for a number of columns. -/
def bar? (m : Model α σ) (count : Nat) : Option (Bar α) :=
  (if count = m.fixedColumns then some m.fixedEdge else m.start? (.shown count)).map fun x =>
    ⟨x, Pixel.zero, m.layout.bottomEdge, m.config.fixedLineWidth⟩

/-- Draw a bar, or none. -/
def showBar (m : Model α σ) (bar : Option (Bar α)) : Model α σ :=
  { m with overlays := { m.overlays with fixedColumnBar := bar } }

/-- Answer an input. -/
def handle (s : ColumnFixation) (input : Input α) (t : GridTurn α σ) :
    Step ColumnFixation (Model α σ) :=
  match input with
  | .pointer .move e => .pass { s with overHandle := onHandle t.model e } t
  | .pointer .down e =>
    if e.isPlainPress && onHandle t.model e then
      -- A column can be picked only if it is not scrolled out.
      let m := t.model.scrollTo 0 t.model.viewport.scrollTop
      let count := m.fixedColumns
      .stop { s with dragging := some count } { t with model := showBar m (bar? m count) }
    else .pass s t
  | .pointer .drag e =>
    match s.dragging, target? t.model e.point.x with
    | none, _ => .pass s t
    | some _, none => .stop s t
    | some _, some count =>
      .stop { s with dragging := some count } (t.modify fun m => showBar m (bar? m count))
  | .pointer .up _ =>
    match s.dragging with
    | none => .pass s t
    | some count =>
      .stop { s with dragging := none } (t.modify fun m => (showBar m none).setFixedColumns count)
  | .key .down e =>
    if e.key = "Escape" && s.dragging.isSome then
      .stop { s with dragging := none } (t.modify fun m => showBar m none)
    else .pass s t
  | _ => .pass s t

/-- The shape of the pointer on the edge. -/
def icon? (s : ColumnFixation) : Option PointerIcon :=
  if s.dragging.isSome || s.overHandle then some .columnResize else none

end ColumnFixation

end DataGrid
