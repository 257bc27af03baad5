import DataGrid.Proofs.Feature.Advance

/-!
# What features ask of the pipeline

Of the features of this library only the one that moves columns ever asks anything of the pipeline.
It has the features after it cut off when it takes hold of columns, and attached again when it lets
go of them (`ColumnMoving.Asks`).
-/

namespace DataGrid

variable {α σ : Type} [Pixel α] [DataSource σ]

/-! ### The feature that moves columns -/

namespace ColumnMoving

/-- What the feature that moves columns makes of an input, and what it asks for. -/
inductive Asks (s : ColumnMoving α) (input : Input α) (t : GridTurn α σ)
    (r : Step (ColumnMoving α) (Model α σ)) : Prop where
  /-- It holds columns after the input if and only if it has held some before. -/
  | nothing (held : r.state.drag?.isSome = s.drag?.isSome) (request : r.turn.request = t.request)
  /-- It takes hold of columns; it may have held others. -/
  | detach (press : input.isPress = true) (held : r.state.drag?.isSome = true)
    (request : r.turn.request = { t.request with detach := true })
  /-- It lets go of columns, and the features after it are to be attached later on. -/
  | reattachAfter (delay : Float) (press : input.isPress = false) (before : s.drag?.isSome = true)
    (idle : r.state = .idle)
    (request : r.turn.request = { t.request with reattachAfter := some delay })
  /-- It lets go of columns, and the features after it are to be attached at once. -/
  | reattachNow (press : input.isPress = false) (before : s.drag?.isSome = true)
    (idle : r.state = .idle) (request : r.turn.request = { t.request with reattachNow := true })

theorem asks_handle (s : ColumnMoving α) (input : Input α) (t : GridTurn α σ) :
  Asks s input t (s.handle input t)
  := by
  unfold handle
  split
  case h_1 =>
    split
    · exact .nothing rfl rfl
    · exact .detach rfl rfl rfl
  case h_2 e =>
    split
    case h_1 => exact .nothing rfl rfl
    case h_2 d hd =>
      refine .nothing ?_ (request_follow d e t)
      rw [hd]
      rfl
  case h_3 =>
    cases s with
    | idle => exact .nothing rfl rfl
    | armed d => exact .reattachAfter _ rfl rfl rfl rfl
    | dragging d => exact .reattachAfter _ rfl rfl rfl rfl
  case h_4 =>
    split
    case isTrue hescape => exact .reattachNow rfl (Bool.and_eq_true_iff.mp hescape).2 rfl rfl
    case isFalse => exact .nothing rfl rfl
  case h_5 => exact .nothing rfl rfl

end ColumnMoving

/-! ### All features -/

theorem CellSelection.request_handle (s : CellSelection α) (input : Input α) (t : GridTurn α σ) :
  (s.handle input t).turn.request = t.request
  := by
  unfold handle
  split
  case h_2 e =>
    split
    · rfl
    · apply (dragScroll_keeps _ e.point t).2.2
  case h_5 => rfl
  all_goals
    split
    · rfl
    · rfl

namespace BuiltIn

theorem name_handle (f : BuiltIn α) (input : Input α) (t : GridTurn α σ) :
  (f.handle input t).feature.name = f.name
  := by
  cases f <;> rfl

theorem name_fire (f : BuiltIn α) (timer : TimerToken) (t : GridTurn α σ) :
  (f.fire timer t).feature.name = f.name
  := by
  cases f <;> rfl

/-- Only the feature that moves columns asks for anything when it answers an input. -/
theorem request_handle {f : BuiltIn α} (h : f.name ≠ "column_moving") (input : Input α)
    (t : GridTurn α σ) :
  (f.handle input t).turn.request = t.request
  := by
  cases f with
  | columnMoving s => cases h rfl
  | cellSelection s => apply s.request_handle
  | _ => rw [turn_handle h (by simp [name])]

/-- The features of this library do what their timers are for. -/
theorem result_fire (f : BuiltIn α) (timer : TimerToken) (t : GridTurn α σ) :
  (f.fire timer t).result = .ok ()
  := by
  cases f <;> rfl

end BuiltIn

end DataGrid
