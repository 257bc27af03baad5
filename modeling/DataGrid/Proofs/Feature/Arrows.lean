import DataGrid.Proofs.Feature.Addressees
import DataGrid.Proofs.Feature.CellDrag
import DataGrid.Proofs.Feature.Inside
import DataGrid.Proofs.Feature.Reveal

/-!
# Arrow keys

The feature that selects cells steps on with an arrow key to a cell of the table, if there is one to
step from.  It selects that cell or reaches on to it, and then brings it into view
(`CellSelection.exists_stepsTo_of_key?`).  Every other feature hands the key on, and so does this
one if it has nothing to step from (`BuiltIn.handle_arrow`).
-/

namespace DataGrid

variable {α σ : Type} [Pixel α] [DataSource σ] {e : KeyEvent}

namespace CellSelection

variable {s s' : CellSelection α} {m m' : Model α σ} {cell : CellPlace}

omit [Pixel α] [DataSource σ] in
/-- Keys step on from a cell now, and nothing of the grid has changed but its selection. -/
structure Selects (cell : CellPlace) (m : Model α σ) (s' : CellSelection α) (m' : Model α σ) :
    Prop where
  focus_eq : s'.focus = some cell
  model_eq : ∃ selection notices, m' = { m with selection := selection, notices := notices }

omit [Pixel α] [DataSource σ] in
theorem selects_extendTo {anchor : CellPlace} (hs : s.anchor = some anchor) (m : Model α σ)
    (cell : CellPlace) :
  Selects cell m (s.extendTo m cell).1 (s.extendTo m cell).2
  := by
  rw [extendTo, hs]
  refine ⟨rfl, ?_⟩
  dsimp only
  split
  · exact ⟨m.selection, m.notices, rfl⟩
  · exact ⟨_, _, rfl⟩

omit [Pixel α] [DataSource σ] in
theorem selects_selectCell (s : CellSelection α) (m : Model α σ) (cell : CellPlace) :
  Selects cell m (s.selectCell m cell).1 (s.selectCell m cell).2
  := by
  refine ⟨rfl, ?_⟩
  rw [selectCell, Model.selectIfNew]
  split
  · exact ⟨m.selection, m.notices, rfl⟩
  · exact ⟨_, _, rfl⟩

/-- A cell of the table is selected, from which keys step on now, and then it is brought into
view. -/
structure StepsTo (cell : CellPlace) (m : Model α σ) (s' : CellSelection α) (m' : Model α σ) :
    Prop where
  isInside : cell.IsInside m.rowCount m.columns.shownCount
  reveals : ∃ selected, Selects cell m s' selected ∧ Reveals selected cell m'

theorem exists_stepsTo_stepOn (hm : m.IsCoherent) (hs : ∃ anchor, s.anchor = some anchor)
    (hrows : 0 < m.rowCount) (hcolumns : 0 < m.columns.shownCount) (start : CellPlace)
    (delta : Int × Int) (modifiers : Modifiers) :
  ∃ cell, StepsTo cell m (s.stepOn m start delta modifiers).1
    (s.stepOn m start delta modifiers).2
  := by
  unfold stepOn
  dsimp only
  have hinside : CellPlace.IsInside m.rowCount m.columns.shownCount
      ⟨step start.row delta.1 m.rowCount modifiers.toggle,
        step start.column delta.2 m.columns.shownCount modifiers.toggle⟩ :=
    ⟨step_lt hrows _ _ _, step_lt hcolumns _ _ _⟩
  generalize (⟨step start.row delta.1 m.rowCount modifiers.toggle,
    step start.column delta.2 m.columns.shownCount modifiers.toggle⟩ : CellPlace) = cell
    at hinside ⊢
  have hselects : Selects cell m
      (if modifiers.shift then s.extendTo m cell else s.selectCell m cell).1
      (if modifiers.shift then s.extendTo m cell else s.selectCell m cell).2 := by
    obtain ⟨anchor, hanchor⟩ := hs
    split
    · exact selects_extendTo hanchor m cell
    · exact selects_selectCell s m cell
  generalize (if modifiers.shift then s.extendTo m cell else s.selectCell m cell) = r
    at hselects ⊢
  refine ⟨cell, hinside, r.2, hselects, reveals_reveal ?_ cell⟩
  obtain ⟨selection, notices, hmodel⟩ := hselects.model_eq
  rw [hmodel]
  exact hm

omit [Pixel α] [DataSource σ] in
/-- There are four arrow keys. -/
theorem eq_of_arrow? (h : (arrow? e.key).isSome) :
  e.key = "ArrowUp" ∨ e.key = "ArrowDown" ∨ e.key = "ArrowLeft" ∨ e.key = "ArrowRight"
  := by
  generalize e.key = key at h
  unfold arrow? at h
  split at h
  case h_1 => exact .inl rfl
  case h_2 => exact .inr (.inl rfl)
  case h_3 => exact .inr (.inr (.inl rfl))
  case h_4 => exact .inr (.inr (.inr rfl))
  case h_5 => cases h

theorem exists_stepsTo_of_key? (hm : m.IsCoherent) (hs : s.IsAnchored)
    (harrow : (arrow? e.key).isSome) (hkey : s.key? e m = some (s', m')) :
  ∃ cell, StepsTo cell m s' m'
  := by
  have hother : e.key ≠ "Escape" ∧ (e.key = "a" || e.key = "A") = false := by
    obtain h | h | h | h := eq_of_arrow? harrow <;> rw [h] <;> decide
  rw [key?, if_neg hother.1, hother.2] at hkey
  obtain ⟨delta, -, hkey⟩ := Option.bind_eq_some_iff.mp hkey
  obtain ⟨start, hstart, hkey⟩ := Option.bind_eq_some_iff.mp hkey
  obtain ⟨rfl, rfl⟩ := Prod.mk.inj (Option.some.inj hkey)
  rw [steppingFrom?] at hstart
  split at hstart
  case isTrue => cases hstart
  case isFalse hsome =>
    obtain ⟨last, -, hstart⟩ := Option.bind_eq_some_iff.mp hstart
    -- there is a cell to reach from, even if there is none from which keys step on
    have hanchor : ∃ anchor, s.anchor = some anchor := by
      cases hfocus : s.focus with
      | none =>
        rw [hfocus] at hstart
        exact ⟨start, hstart⟩
      | some focus =>
        apply hs (.inr _)
        rw [hfocus]
        rfl
    apply exists_stepsTo_stepOn hm hanchor <;> omega

/-- Stepping to a cell takes the least scrolling. -/
theorem StepsTo.isLeastScroll {m m' : Model Rat σ} {s' : CellSelection Rat}
    {cell : CellPlace} (h : StepsTo cell m s' m') (hm : m.IsCoherent)
    (hwidths : m.columns.ShowsWidths) (hheight : 0 < m.config.rowHeight) :
  IsLeastScroll m m' cell
  := by
  obtain ⟨⟨hrow, hcolumn⟩, selected, hselects, hreveals⟩ := h
  obtain ⟨selection, notices, rfl⟩ := hselects.model_eq
  have hscroll := hreveals.isLeastScroll hm hwidths hheight hcolumn hrow
  exact ⟨hscroll.column_fixed, hscroll.column_nearest, hscroll.row_fixed, hscroll.row_nearest⟩

end CellSelection

namespace BuiltIn

/-- A feature hands an arrow key on and does nothing else, or it is one that selects cells and steps
on. -/
theorem handle_arrow (harrow : (CellSelection.arrow? e.key).isSome) (f : BuiltIn α)
    (t : GridTurn α σ) :
  f.handle (.key .down e) t = ⟨.ok .pass, f, t⟩
    ∨ ∃ s s' m', f = .cellSelection s ∧ s.key? e t.model = some (s', m')
      ∧ f.handle (.key .down e) t = ⟨.ok .stop, .cellSelection s', { t with model := m' }⟩
  := by
  have hkeys := CellSelection.eq_of_arrow? harrow
  cases f with
  | cellSelection s =>
    cases hkey : s.key? e t.model with
    | none =>
      left
      simp only [handle, CellSelection.handle, hkey]
      rfl
    | some r =>
      right
      refine ⟨s, r.1, r.2, rfl, hkey, ?_⟩
      simp only [handle, CellSelection.handle, hkey]
      rfl
  | keyPaging =>
    left
    obtain ⟨key, ⟨shift, ctrl, alt, command⟩⟩ := e
    obtain rfl | rfl | rfl | rfl := hkeys <;> cases shift <;> rfl
  | _ =>
    left
    apply handsOn_key _ _ _ t rfl
    · obtain h | h | h | h := hkeys <;> rw [h] <;> decide
    · simp only [name]
      decide
    · simp only [name]
      decide

end BuiltIn

end DataGrid
