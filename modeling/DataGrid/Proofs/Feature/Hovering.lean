import DataGrid.Proofs.Feature.Advance
import DataGrid.Proofs.Model.Hovering

/-!
# Hovering

Only the feature for hovering changes the hovered cell: it takes it over from a pointer that moves,
and forgets it when it hears that the grid has been laid out (`BuiltIn.hovered_handle`,
`BuiltIn.hovered_fire`).
-/

namespace DataGrid

variable {α σ : Type}

variable [Pixel α] [DataSource σ]

namespace ColumnFixation

theorem hovered_handle (s : ColumnFixation) (input : Input α) (t : GridTurn α σ) :
  (s.handle input t).turn.model.hovered = t.model.hovered
  := by
  fun_cases handle s input t
  case case8 => apply Model.hovered_setFixedColumns
  all_goals rfl

end ColumnFixation

namespace RowFixation

theorem hovered_handle (s : RowFixation) (input : Input α) (t : GridTurn α σ) :
  (s.handle input t).turn.model.hovered = t.model.hovered
  := by
  fun_cases handle s input t
  case case8 => apply Model.hovered_setFixedRows
  all_goals rfl

end RowFixation

namespace ColumnResizing

omit [DataSource σ] in
@[simp]
theorem hovered_noteResize (m : Model α σ) (id : ColumnId) (before after : α) :
  (noteResize m id before after).hovered = m.hovered
  := by
  rw [noteResize]
  split <;> rfl

theorem hovered_autosize (m : Model α σ) (id : ColumnId) :
  (autosize m id).hovered = m.hovered
  := by
  rw [autosize]
  split
  · dsimp only
    split <;> simp
  · rfl

theorem hovered_handle (s : ColumnResizing α) (input : Input α) (t : GridTurn α σ) :
  (s.handle input t).turn.model.hovered = t.model.hovered
  := by
  unfold handle
  split
  case h_1 => rfl
  case h_2 =>
    split
    · split <;> rfl
    · rfl
  case h_3 =>
    split
    · rfl
    · apply Model.hovered_setColumnWidth
  case h_4 =>
    split
    · rfl
    · dsimp only [Step.stop, Turn.modify]
      split
      · apply hovered_noteResize
      · rfl
  case h_5 =>
    split
    · rfl
    · apply hovered_autosize
  case h_6 =>
    split
    · split
      · apply Model.hovered_setColumnWidth
      · rfl
    · rfl
  case h_7 => rfl

end ColumnResizing

omit [Pixel α] [DataSource σ] in
theorem RowSelection.hovered_handle (s : RowSelection) (input : Input α) (t : GridTurn α σ) :
  (s.handle input t).turn.model.hovered = t.model.hovered
  := by
  fun_cases RowSelection.handle s input t
  all_goals rfl

omit [Pixel α] [DataSource σ] in
theorem ColumnSelection.hovered_handle (s : ColumnSelection) (input : Input α)
    (t : GridTurn α σ) :
  (s.handle input t).turn.model.hovered = t.model.hovered
  := by
  fun_cases ColumnSelection.handle s input t
  case case2 => apply Model.hovered_selectIfNew
  all_goals rfl

namespace ColumnMoving

omit [DataSource σ] in
theorem hovered_aim (m : Model α σ) (d : ColumnDrag α) :
  (aim m d).1.hovered = m.hovered
  := by
  rw [aim]
  split <;> rfl

theorem hovered_scrollStep (d : ColumnDrag α) (direction : Int) (attempt : Nat)
    (t : GridTurn α σ) :
  (scrollStep d direction attempt t).2.model.hovered = t.model.hovered
  := by
  rw [scrollStep]
  split
  · rfl
  · next m hm => exact (hovered_aim _ _).trans (Model.Scrolls.of_scrollBy? hm).hovered_eq

theorem hovered_follow (d : ColumnDrag α) (e : PointerEvent α) (t : GridTurn α σ) :
  (follow d e t).2.model.hovered = t.model.hovered
  := by
  unfold follow
  extract_lets _ d' t'
  split
  · split
    · rfl
    · exact hovered_scrollStep _ _ _ _
  · dsimp only
    split
    · rfl
    · exact hovered_aim _ _

theorem hovered_drop (d : ColumnDrag α) (m : Model α σ) :
  (drop d m).hovered = m.hovered
  := by
  rw [drop]
  split
  · rfl
  · split
    · rfl
    · next m' hm =>
      exact (Model.hovered_selectIfNew _ _).trans (Model.hovered_of_moveColumns? hm)

theorem hovered_handle (s : ColumnMoving α) (input : Input α) (t : GridTurn α σ) :
  (s.handle input t).turn.model.hovered = t.model.hovered
  := by
  unfold handle
  split
  case h_1 => split <;> rfl
  case h_2 =>
    split
    · rfl
    · apply hovered_follow
  case h_3 =>
    split
    · rfl
    · rfl
    · apply hovered_drop
  case h_4 => split <;> rfl
  case h_5 => rfl

theorem hovered_fire (s : ColumnMoving α) (timer : TimerToken) (t : GridTurn α σ) :
  (s.fire timer t).2.model.hovered = t.model.hovered
  := by
  unfold fire
  split
  · split
    · apply hovered_scrollStep
    · rfl
  · rfl

end ColumnMoving

namespace CellSelection

omit [Pixel α] [DataSource σ] in
theorem hovered_extendTo (s : CellSelection α) (m : Model α σ) (cell : CellPlace) :
  (s.extendTo m cell).2.hovered = m.hovered
  := by
  rw [extendTo]
  split
  · rfl
  · dsimp only
    split <;> rfl

omit [Pixel α] [DataSource σ] in
theorem hovered_extendTo? (s : CellSelection α) (m : Model α σ) (cell? : Option CellPlace) :
  (s.extendTo? m cell?).2.hovered = m.hovered
  := by
  cases cell? with
  | none => rfl
  | some cell => apply hovered_extendTo

theorem hovered_scrollStep (s : CellSelection α) (columns rows : Int) (t : GridTurn α σ) :
  (s.scrollStep columns rows t).2.model.hovered = t.model.hovered
  := by
  rw [scrollStep]
  split
  · rfl
  · next m hm => exact (hovered_extendTo? _ _ _).trans (Model.Scrolls.of_scrollBy? hm).hovered_eq

theorem hovered_dragScroll (s : CellSelection α) (p : Point α) (t : GridTurn α σ) :
  (s.dragScroll p t).2.model.hovered = t.model.hovered
  := by
  rw [dragScroll]
  split
  · rfl
  · split
    · rfl
    · apply hovered_scrollStep

omit [Pixel α] [DataSource σ] in
theorem hovered_press (s : CellSelection α) (e : PointerEvent α) (cell : CellPlace)
    (m : Model α σ) :
  (s.press e cell m).2.hovered = m.hovered
  := by
  rw [press]
  dsimp only
  split <;> rfl

theorem hovered_stepOn (s : CellSelection α) (m : Model α σ) (start : CellPlace)
    (delta : Int × Int) (modifiers : Modifiers) :
  (s.stepOn m start delta modifiers).2.hovered = m.hovered
  := by
  rw [stepOn]
  dsimp only
  split
  · exact (scrolls_reveal _ _).hovered_eq.trans (hovered_extendTo _ _ _)
  · exact (scrolls_reveal _ _).hovered_eq.trans (Model.hovered_selectIfNew _ _)

theorem hovered_of_key? {s s' : CellSelection α} {e : KeyEvent} {m m' : Model α σ}
    (h : s.key? e m = some (s', m')) :
  m'.hovered = m.hovered
  := by
  rw [key?] at h
  split at h
  · split at h
    · cases h
    · obtain ⟨rfl, rfl⟩ := Option.some.inj h
      rfl
  · split at h
    · split at h
      · rw [selectAll?] at h
        split at h
        · cases h
        · obtain rfl := congrArg Prod.snd (Option.some.inj h)
          rfl
      · cases h
    · obtain ⟨delta, -, h⟩ := Option.bind_eq_some_iff.mp h
      obtain ⟨start, -, h⟩ := Option.bind_eq_some_iff.mp h
      obtain rfl := congrArg Prod.snd (Option.some.inj h)
      apply hovered_stepOn

theorem hovered_handle (s : CellSelection α) (input : Input α) (t : GridTurn α σ) :
  (s.handle input t).turn.model.hovered = t.model.hovered
  := by
  unfold handle
  split
  case h_1 =>
    split
    · rfl
    · apply hovered_press
  case h_2 =>
    split
    · rfl
    · exact (hovered_extendTo? _ _ _).trans (hovered_dragScroll _ _ _)
  case h_3 => split <;> rfl
  case h_4 =>
    split
    · rfl
    · next hkey => exact hovered_of_key? hkey
  case h_5 => rfl

theorem hovered_fire (s : CellSelection α) (timer : TimerToken) (t : GridTurn α σ) :
  (s.fire timer t).2.model.hovered = t.model.hovered
  := by
  rw [fire]
  split
  · rfl
  · apply hovered_scrollStep

end CellSelection

theorem KeyPaging.hovered_handle (input : Input α) (t : GridTurn α σ) :
  (KeyPaging.handle input t).turn.model.hovered = t.model.hovered
  := by
  unfold KeyPaging.handle
  split
  · split
    · next m hm =>
      split at hm
      · exact (scrolls_of_pageColumns? hm).hovered_eq
      · exact (scrolls_of_pageRows? hm).hovered_eq
    · rfl
  · rfl

omit [Pixel α] [DataSource σ] in
theorem ContextMenu.hovered_handle (s : ContextMenu) (input : Input α) (t : GridTurn α σ) :
  (s.handle input t).turn.model.hovered = t.model.hovered
  := by
  fun_cases ContextMenu.handle s input t
  all_goals rfl

omit [Pixel α] [DataSource σ] in
/-- What is hovered after an input. -/
def Input.hovered (before : Option GridCell) : Input α → Option GridCell
  | .pointer .move e => e.cell?.map fun c => c.cell.gridCell
  | .rendered => none
  | _ => before

namespace BuiltIn

theorem hovered_handle_hover (input : Input α) (t : GridTurn α σ) :
  (BuiltIn.hover.handle input t).turn.model.hovered = input.hovered t.model.hovered
  := by
  change (Hover.handle input t).turn.model.hovered = _
  fun_cases Hover.handle input t
  case case3 hmove hrendered =>
    cases input with
    | pointer kind e =>
      cases kind with
      | move => cases hmove e rfl
      | _ => rfl
    | key kind e => rfl
    | rendered => cases hrendered rfl
  all_goals rfl

omit [Pixel α] in
theorem eq_hover_of_name {f : BuiltIn α} (h : f.name = "on_hover") :
  f = .hover
  := by
  cases f with
  | hover => rfl
  | _ => simp [name] at h

/-- A feature that is not the one for hovering leaves the hovered cell alone. -/
theorem hovered_handle {f : BuiltIn α} (hf : f.name ≠ "on_hover") (input : Input α)
    (t : GridTurn α σ) :
  (f.handle input t).turn.model.hovered = t.model.hovered
  := by
  cases f with
  | hover => cases hf rfl
  | columnFixation s => apply s.hovered_handle
  | rowFixation s => apply s.hovered_handle
  | columnResizing s => apply s.hovered_handle
  | rowSelection s => apply s.hovered_handle
  | columnSelection s => apply s.hovered_handle
  | columnMoving s => apply s.hovered_handle
  | cellSelection s => apply s.hovered_handle
  | keyPaging => apply KeyPaging.hovered_handle
  | contextMenu s => apply s.hovered_handle

/-- Timers leave the hovered cell alone. -/
theorem hovered_fire (f : BuiltIn α) (timer : TimerToken) (t : GridTurn α σ) :
  (f.fire timer t).turn.model.hovered = t.model.hovered
  := by
  cases f with
  | columnMoving s => apply s.hovered_fire
  | cellSelection s => apply s.hovered_fire
  | _ => rfl

/-- A pointer that moves changes no more of the model than the hovered cell. -/
theorem handle_move (f : BuiltIn α) (e : PointerEvent α) (t : GridTurn α σ) :
  (f.handle (.pointer .move e) t).result = .ok .pass
    ∧ ∃ cell, (f.handle (.pointer .move e) t).turn
      = { t with model := { t.model with hovered := cell } }
  := by
  cases f with
  | hover => exact ⟨rfl, _, rfl⟩
  | columnMoving s => cases s <;> exact ⟨rfl, t.model.hovered, rfl⟩
  | _ => exact ⟨rfl, t.model.hovered, rfl⟩

end BuiltIn

end DataGrid
