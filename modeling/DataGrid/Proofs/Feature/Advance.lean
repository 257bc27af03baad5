import DataGrid.Proofs.Feature.Deeds
import DataGrid.Proofs.Pipeline.Rules

/-!
# What a turn of a feature does

In its turn a feature of this library changes the model only in ways that keep it coherent, and
sets no timers but its own (`Turn.Advances`, `BuiltIn.advances_handle`, `BuiltIn.advances_fire`).
Only two features do more in a turn than change the model (`BuiltIn.turn_handle`).
-/

namespace DataGrid

variable {α σ : Type} [Pixel α] [DataSource σ]

/-- What a turn may have become when its feature is done. -/
structure Turn.Advances (t t' : GridTurn α σ) : Prop where
  model : t.model.Tracks t'.model
  timers : t.timers.Extends t.index t'.timers

/-! ### Moving columns -/

namespace ColumnMoving

theorem extends_scrollStep (d : ColumnDrag α) (direction : Int) (attempt : Nat)
    (t : GridTurn α σ) :
  t.timers.Extends t.index (scrollStep d direction attempt t).2.timers
  := by
  rw [scrollStep]
  split
  · exact .refl
  · exact .schedule _ .refl

theorem extends_follow (d : ColumnDrag α) (e : PointerEvent α) (t : GridTurn α σ) :
  t.timers.Extends t.index (follow d e t).2.timers
  := by
  unfold follow
  extract_lets _ d' t'
  split
  · split
    · exact .refl
    · apply extends_scrollStep d' _ 0 t'
  · dsimp only
    split
    · exact .refl
    · exact .refl

theorem extends_handle (s : ColumnMoving α) (input : Input α) (t : GridTurn α σ) :
  t.timers.Extends t.index (s.handle input t).turn.timers
  := by
  unfold handle
  split
  case h_2 e =>
    split
    · exact .refl
    · apply extends_follow
  case h_5 => exact .refl
  all_goals
    split
    all_goals exact .refl

theorem extends_fire (s : ColumnMoving α) (timer : TimerToken) (t : GridTurn α σ) :
  t.timers.Extends t.index (s.fire timer t).2.timers
  := by
  unfold fire
  split
  · split
    · apply extends_scrollStep
    · exact .refl
  · exact .refl

theorem advances_scrollStep (d : ColumnDrag α) (direction : Int) (attempt : Nat)
    (t : GridTurn α σ) :
  t.Advances (scrollStep d direction attempt t).2
  := ⟨(roams_scrollStep d direction attempt t).tracks, extends_scrollStep d direction attempt t⟩

theorem advances_follow (d : ColumnDrag α) (e : PointerEvent α) (t : GridTurn α σ) :
  t.Advances (follow d e t).2
  := ⟨(roams_follow d e t).tracks, extends_follow d e t⟩

end ColumnMoving

/-! ### Selecting cells -/

namespace CellSelection

theorem extends_scrollStep (s : CellSelection α) (columns rows : Int) (t : GridTurn α σ) :
  t.timers.Extends t.index (s.scrollStep columns rows t).2.timers
  := by
  rw [scrollStep]
  split
  · exact .refl
  · exact .schedule _ .refl

theorem extends_dragScroll (s : CellSelection α) (p : Point α) (t : GridTurn α σ) :
  t.timers.Extends t.index (s.dragScroll p t).2.timers
  := by
  rw [dragScroll]
  split
  · exact .refl
  · split
    · exact .refl
    · apply extends_scrollStep

theorem extends_handle (s : CellSelection α) (input : Input α) (t : GridTurn α σ) :
  t.timers.Extends t.index (s.handle input t).turn.timers
  := by
  unfold handle
  split
  case h_2 =>
    split
    · exact .refl
    · apply extends_dragScroll
  case h_5 => exact .refl
  all_goals
    split
    · exact .refl
    · exact .refl

theorem extends_fire (s : CellSelection α) (timer : TimerToken) (t : GridTurn α σ) :
  t.timers.Extends t.index (s.fire timer t).2.timers
  := by
  rw [fire]
  split
  · exact .refl
  · apply extends_scrollStep

end CellSelection

/-! ### All features -/

namespace BuiltIn

/-- The features that neither move columns nor select cells change nothing but the model. -/
theorem turn_handle {f : BuiltIn α} (hmoving : f.name ≠ "column_moving")
    (hcells : f.name ≠ "cell_selection") (input : Input α) (t : GridTurn α σ) :
  (f.handle input t).turn = { t with model := (f.handle input t).turn.model }
  := by
  cases f with
  | columnMoving s => cases hmoving rfl
  | cellSelection s => cases hcells rfl
  | hover =>
    simp only [handle, reply]
    fun_cases Hover.handle input t
    all_goals rfl
  | columnFixation s =>
    simp only [handle, reply]
    fun_cases ColumnFixation.handle s input t
    all_goals rfl
  | rowFixation s =>
    simp only [handle, reply]
    fun_cases RowFixation.handle s input t
    all_goals rfl
  | columnResizing s =>
    simp only [handle, reply]
    fun_cases ColumnResizing.handle s input t
    all_goals rfl
  | rowSelection s =>
    simp only [handle, reply]
    fun_cases RowSelection.handle s input t
    all_goals rfl
  | columnSelection s =>
    simp only [handle, reply]
    fun_cases ColumnSelection.handle s input t
    all_goals rfl
  | keyPaging =>
    simp only [handle, reply]
    fun_cases KeyPaging.handle input t
    all_goals rfl
  | contextMenu s =>
    simp only [handle, reply]
    fun_cases ContextMenu.handle s input t
    all_goals rfl

theorem extends_handle (f : BuiltIn α) (input : Input α) (t : GridTurn α σ) :
  t.timers.Extends t.index (f.handle input t).turn.timers
  := by
  cases f with
  | columnMoving s => apply s.extends_handle
  | cellSelection s => apply s.extends_handle
  | _ =>
    rw [turn_handle (by simp [name]) (by simp [name])]
    exact .refl

theorem advances_handle (f : BuiltIn α) (input : Input α) (t : GridTurn α σ) :
  t.Advances (f.handle input t).turn
  := ⟨(f.acts_handle input t).tracks, f.extends_handle input t⟩

/-- Only two features set timers. -/
theorem advances_fire (f : BuiltIn α) (timer : TimerToken) (t : GridTurn α σ) :
  t.Advances (f.fire timer t).turn
  := by
  refine ⟨(f.roams_fire timer t).tracks, ?_⟩
  cases f with
  | columnMoving s => apply s.extends_fire
  | cellSelection s => apply s.extends_fire
  | _ => exact .refl

end BuiltIn

end DataGrid
