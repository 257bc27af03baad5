import DataGrid.Input
import DataGrid.Pipeline

/-!
# Steps of the features

The features of this library never fail.  A feature with states `S` answers an input with a `Step`.
-/

namespace DataGrid

/-- What a feature that cannot fail answers: what becomes of the input, its own new state, and the
turn as it leaves it. -/
structure Step (S μ : Type) where
  flow : Flow
  state : S
  turn : Turn μ

namespace Step

variable {S μ : Type}

/-- The input goes on. -/
def pass (state : S) (turn : Turn μ) : Step S μ := ⟨.pass, state, turn⟩

/-- The input stops here. -/
def stop (state : S) (turn : Turn μ) : Step S μ := ⟨.stop, state, turn⟩

end Step

/-- The turn of a feature of a grid. -/
abbrev GridTurn (α σ : Type) := Turn (Model α σ)

/-- Whether a press is of the primary button alone. -/
def PointerEvent.isPlainPress {α : Type} (e : PointerEvent α) : Bool :=
  e.button = .primary && !e.modifiers.any

/-- The index among the shown columns of the cell under the pointer. -/
def PointerEvent.shownIndex? {α : Type} (e : PointerEvent α) : Option Nat :=
  e.cell?.bind fun c => c.cell.shownIndex?

end DataGrid
