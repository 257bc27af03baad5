import DataGrid.Feature.Step

/-!
# Hovering

The cell under the pointer is the hovered one, until the layout is computed anew.
-/

namespace DataGrid.Hover

variable {α σ : Type}

/-- Answer an input. -/
def handle (input : Input α) (t : GridTurn α σ) : Step Unit (Model α σ) :=
  match input with
  | .pointer .move e =>
    .pass () (t.modify fun m => { m with hovered := e.cell?.map fun c => c.cell.gridCell })
  | .rendered => .pass () (t.modify fun m => { m with hovered := none })
  | _ => .pass () t

end DataGrid.Hover
