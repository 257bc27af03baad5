import Mathlib
import DataGrid.Proofs.Columns.Positions
import DataGrid.Proofs.Model.Coherence
import DataGrid.Proofs.Selection.Remap
import DataGrid.Schema
import DataGrid.Table

/-!
# Moved columns and the selection

When shown columns are moved, the selection follows them by identity: what was selected of a column
is selected of it at its new index, and nothing else is.
-/

namespace DataGrid

namespace Model

variable {α σ : Type} [Pixel α] [DataSource σ] {m m' : Model α σ} {start count target : Nat}

omit [Pixel α] [DataSource σ] in
/-- A new selection is noted, and the old one is not. -/
theorem notices_selectIfNew (m : Model α σ) (s : Selection) :
  (m.selectIfNew s).notices
    = m.notices ++ if s = m.selection then [] else [.selectionChanged]
  := by
  rw [selectIfNew]
  split
  · rw [List.append_nil]
  · rfl

/-- The model `m'` is `m` after a move of the run of `count` columns from `start`, with the
selection following the columns. -/
structure FollowsMove (m m' : Model α σ) (start count target : Nat) : Prop where
  /-- Column `i` gets the index `movedIndex _ _ _ i`. -/
  positions_eq :
    movedPositions? m.columns.shownCount start count target
      = some ((List.range m.columns.shownCount).map
          (movedIndex start count (landing start count target)))
  perm :
    ((List.range m.columns.shownCount).map
      (movedIndex start count (landing start count target))).Perm
        (List.range m.columns.shownCount)
  shown_eq : ∀ i : Nat,
    m'.columns.shown[movedIndex start count (landing start count target) i]?
      = m.columns.shown[i]?
  selection :
    m.selection.IsCarried m.columns.shownCount
      (movedIndex start count (landing start count target)) m'.selection
  notices_eq :
    m'.notices
      = m.notices ++ if m'.selection = m.selection then [] else [.selectionChanged]

theorem followsMove_of_moveColumns? (h : m.moveColumns? start count target = some m') :
  m.FollowsMove m' start count target
  := by
  obtain ⟨columns, hmove, rfl⟩ := Option.map_eq_some_iff.mp h
  obtain ⟨shown, hrun, hreorder⟩ := Option.bind_eq_some_iff.mp hmove
  have hshown : columns.shown = shown := by
    rw [Columns.reorder?] at hreorder
    split at hreorder
    · cases hreorder
    · rw [← Option.some.inj hreorder]
  have hpositions : movedPositions? m.columns.shownCount start count target
      = some ((List.range m.columns.shownCount).map
          (movedIndex start count (landing start count target))) :=
    movedPositions?_of_moveRun? hrun
  obtain ⟨-, hfits, htarget⟩ := bounds_of_moveRun? hrun
  rw [hpositions]
  constructor
  case positions_eq => apply hpositions
  case perm => apply perm_map_movedIndex hfits (landing_le hfits htarget)
  case shown_eq =>
    intro i
    change (Model.selectIfNew _ _).columns.shown[_]? = _
    rw [toFrame_selectIfNew, hshown]
    apply getElem?_of_moveRun? hrun
  case selection =>
    change m.selection.IsCarried _ _ (Model.selectIfNew _ _).selection
    rw [selection_selectIfNew]
    apply Selection.isCarried_remapColumns (movedIndex_injective _ _ _)
  case notices_eq =>
    change (Model.selectIfNew _ _).notices
      = _ ++ if (Model.selectIfNew _ _).selection = _ then _ else _
    rw [selection_selectIfNew, notices_selectIfNew]

/-- The selection follows a move of columns by identity: of each column the same stays selected at
its new index, ranges of cells stay together or go, ranges of columns are built anew, and listeners
are told exactly if the selection is another one.  A move that changes nothing leaves the selection
as it is. -/
theorem selection_follows_move (m : Model α σ) (start count target : Nat) :
  (∀ m', m.moveColumns? start count target = some m' → m.FollowsMove m' start count target)
    ∧ (m.moveColumns? start count target = none →
        ((m.moveColumns? start count target).getD m).selection = m.selection)
  := by
  constructor
  · intro m' h
    apply followsMove_of_moveColumns? h
  · intro h
    rw [h, Option.getD_none]

/-- Column 0 of four goes before column 3: a range of two columns is torn into two, a range of
cells that is torn is dropped, but one that reaches from column 3 past the last column stays. -/
theorem selection_follows_move_table :
  let m : Model Rat Table :=
    { Model.ofData (Table.generate 4 2 fun x y => .text (toString (x + y)))
        (ColumnSchema.ofNames ["a", "b", "c", "d"]) Config.default with
      selection := ⟨[.columns 1 0, .cells 1 7 0 3, .cells 0 0 1 1]⟩ }
  ∃ m', m.moveColumns? 0 1 3 = some m'
    ∧ m'.selection = ⟨[.cells 0 3 1 3, .columns 0 0, .columns 2 2]⟩
    ∧ m.FollowsMove m' 0 1 3
  := by
  intro m
  have hmoved : (m.moveColumns? 0 1 3).map (·.selection)
      = some ⟨[.cells 0 3 1 3, .columns 0 0, .columns 2 2]⟩ := by cbv
  obtain ⟨m', hm', hselection⟩ := Option.map_eq_some_iff.mp hmoved
  exact ⟨m', hm', hselection, (selection_follows_move m 0 1 3).1 m' hm'⟩

end Model

end DataGrid
