import DataGrid.Grid

/-!
# Calls

A `Call` is one thing that a host can do to a grid, and `Grid.run` does one after the other.
-/

namespace DataGrid

/-- One thing that a host can do to a grid. -/
inductive Call (α σ : Type) where
  | setClock (now : Float)
  | pointer (kind : PointerKind) (point : Point α) (button : Button) (modifiers : Modifiers)
  | key (kind : KeyKind) (event : KeyEvent)
  | tick (now : Float)
  | resizeViewport (width height : α)
  | scrollTo (left top : Nat)
  | scrollBy (columns rows : Int)
  | setFixedColumns (count : Nat)
  | setFixedRows (count : Nat)
  | moveColumns (start count target : Nat)
  | showColumns (source : Columns.Source) (indexes : List Nat) (placement : Columns.Placement)
      (duplicates : Bool)
  | hideColumns (source : Columns.Source) (indexes : List Nat)
  | load (data : σ) (schema : List ColumnSchema)
  | restore (snapshot : Snapshot α)
  | setValue (x : Slot) (y : Nat) (value : CellValue)

namespace Grid

variable {α σ φ : Type} [Pixel α] [DataSource σ] [Feature φ (Model α σ) (Input α)]

/-- Do one thing to a grid. -/
def perform (g : Grid α σ φ) : Call α σ → Answer Unit α σ φ
  | .setClock now => ⟨.ok (), g.setClock now⟩
  | .pointer kind point button modifiers => g.pointer kind point button modifiers
  | .key kind event => g.key kind event
  | .tick now => g.tick now
  | .resizeViewport width height => g.change fun m => m.resizeViewport width height
  | .scrollTo left top => g.change fun m => m.scrollTo left top
  | .scrollBy columns rows => g.change fun m => m.scrollBy columns rows
  | .setFixedColumns count => g.change fun m => m.setFixedColumns count
  | .setFixedRows count => g.change fun m => m.setFixedRows count
  | .moveColumns start count target => g.change fun m => (m.moveColumns? start count target).getD m
  | .showColumns source indexes placement duplicates =>
    g.change fun m => m.showColumns source indexes placement duplicates
  | .hideColumns source indexes => g.change fun m => m.hideColumns source indexes
  | .load data schema => ⟨.ok (), g.load data schema⟩
  | .restore snapshot => g.change fun m => m.restore snapshot
  | .setValue x y value => ⟨.ok (), (g.setValue? x y value).getD g⟩

/-- The grid after some calls, whatever they give back. -/
def run (g : Grid α σ φ) (calls : List (Call α σ)) : Grid α σ φ :=
  calls.foldl (fun g c => (g.perform c).grid) g

end Grid

end DataGrid
