import DataGrid.Model

/-!
# Input

What a person does with a grid: pointer and key events.  A pointer event carries the cell under
the pointer, looked up when the event comes in.
-/

namespace DataGrid

/-- A button of the pointer. -/
inductive Button where
  | primary
  | secondary
  | middle
deriving DecidableEq

/-- The keys held down together with a button or another key. -/
structure Modifiers where
  shift : Bool
  ctrl : Bool
  alt : Bool
  command : Bool

namespace Modifiers

/-- No key is held down. -/
def none : Modifiers := ⟨false, false, false, false⟩

def any (m : Modifiers) : Bool := m.shift || m.ctrl || m.alt || m.command

/-- Whether to add to what is selected, or take from it. -/
def toggle (m : Modifiers) : Bool := m.ctrl || m.command

end Modifiers

/-- A cell under the pointer, as it was when the event came in. -/
structure PointedCell (α : Type) where
  cell : Binding α
  /-- The pointer as seen from the top-left corner of the cell. -/
  offset : Point α
  isColumnFixed : Bool
  isRowFixed : Bool

/-- A pointer event. -/
structure PointerEvent (α : Type) where
  point : Point α
  button : Button
  modifiers : Modifiers
  /-- The cell under the pointer, if there is one. -/
  cell? : Option (PointedCell α)

/-- A key event.  Keys go by names such as `Escape` and `a`. -/
structure KeyEvent where
  key : String
  modifiers : Modifiers

/-- The kinds of pointer events. -/
inductive PointerKind where
  | down
  | move
  | drag
  | up
  | doubleClick
  | contextMenu
deriving DecidableEq

/-- The kinds of key events. -/
inductive KeyKind where
  | down
  | up
deriving DecidableEq

/-- What is offered to the features of a grid. -/
inductive Input (α : Type) where
  | pointer (kind : PointerKind) (event : PointerEvent α)
  | key (kind : KeyKind) (event : KeyEvent)
  /-- The layout has been computed. -/
  | rendered

/-- The cell under a point. -/
def Model.cellAt? {α σ : Type} [Pixel α] [DataSource σ] (m : Model α σ) (p : Point α) :
    Option (PointedCell α) :=
  (m.toFrame.cellAt? p).map fun hit =>
    let b := Binding.ofPlaced m.scene hit.column hit.row
    ⟨b, hit.offset, b.isColumnFixed m.scene, b.isRowFixed m.scene⟩

end DataGrid
