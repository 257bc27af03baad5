import DataGrid.Feature.BuiltIn

/-!
# Features at rest

A feature that is not in the middle of a drag leaves drags, releases and timers to others: it hands
them on and changes nothing that can be seen.  When the layout has been computed, no feature does
more than forget the hovered cell.
-/

namespace DataGrid

variable {α σ : Type}

/-- A model without what is told once and then forgotten: notices, the hovered cell, and whether
the layout is new. -/
def Model.still (m : Model α σ) : Model α σ :=
  { m with
    columns := { m.columns with notices := [] }
    hovered := none
    notices := []
    relaid := false }

namespace BuiltIn

/-- Whether the feature is in the middle of a drag. -/
def isDragging : BuiltIn α → Bool
  | .columnFixation s => s.dragging.isSome
  | .rowFixation s => s.dragging.isSome
  | .columnResizing s => s.drag.isSome
  | .rowSelection s => s.dragging
  | .columnMoving s => s.drag?.isSome
  | .cellSelection s => s.dragging
  | _ => false

/-- Whether a drag reaches for further columns. -/
def isExtending : BuiltIn α → Bool
  | .columnSelection s => s.extending
  | _ => false

/-- The columns that the feature holds. -/
def columnDrag? : BuiltIn α → Option (ColumnDrag α)
  | .columnMoving s => s.drag?
  | _ => none

/-- The states of the features that are not in the middle of a drag. -/
inductive IsAtRest : BuiltIn α → Prop where
  | hover : IsAtRest .hover
  | columnFixation (overHandle : Bool) : IsAtRest (.columnFixation ⟨none, overHandle⟩)
  | rowFixation (overHandle : Bool) : IsAtRest (.rowFixation ⟨none, overHandle⟩)
  | columnResizing (overDivider : Bool) : IsAtRest (.columnResizing ⟨none, overDivider⟩)
  | rowSelection (anchor : Option Nat) : IsAtRest (.rowSelection ⟨anchor, false⟩)
  | columnSelection (s : ColumnSelection) : IsAtRest (.columnSelection s)
  | columnMoving : IsAtRest (.columnMoving .idle)
  | cellSelection (anchor focus : Option CellPlace) (pointer : Option (Point α))
    (scroll : Option DragScroll) : IsAtRest (.cellSelection ⟨anchor, focus, false, pointer, scroll⟩)
  | keyPaging : IsAtRest .keyPaging
  | contextMenu (s : ContextMenu) : IsAtRest (.contextMenu s)

theorem isAtRest_of_isDragging {f : BuiltIn α} (h : f.isDragging = false) :
  f.IsAtRest
  := by
  cases f with
  | hover => apply IsAtRest.hover
  | columnFixation s =>
    obtain ⟨_ | _, overHandle⟩ := s
    · apply IsAtRest.columnFixation
    · cases h
  | rowFixation s =>
    obtain ⟨_ | _, overHandle⟩ := s
    · apply IsAtRest.rowFixation
    · cases h
  | columnResizing s =>
    obtain ⟨_ | _, overDivider⟩ := s
    · apply IsAtRest.columnResizing
    · cases h
  | rowSelection s =>
    obtain ⟨anchor, dragging⟩ := s
    obtain rfl : dragging = false := h
    apply IsAtRest.rowSelection
  | columnSelection s => apply IsAtRest.columnSelection
  | columnMoving s =>
    cases s with
    | idle => apply IsAtRest.columnMoving
    | armed d => cases h
    | dragging d => cases h
  | cellSelection s =>
    obtain ⟨anchor, focus, dragging, pointer, scroll⟩ := s
    obtain rfl : dragging = false := h
    apply IsAtRest.cellSelection
  | keyPaging => apply IsAtRest.keyPaging
  | contextMenu s => apply IsAtRest.contextMenu

theorem IsAtRest.columnDrag?_eq {f : BuiltIn α} (h : f.IsAtRest) :
  f.columnDrag? = none
  := by
  cases h <;> rfl

section Answers

variable [Pixel α] [DataSource σ] {f : BuiltIn α}

/-- A drag is for the feature that is dragging. -/
theorem IsAtRest.handle_drag (h : f.IsAtRest) (hextending : f.isExtending = false)
    (e : PointerEvent α) (t : GridTurn α σ) :
  f.handle (.pointer .drag e) t = ⟨.ok .pass, f, t⟩
  := by
  cases h with
  | columnSelection s =>
    obtain ⟨anchor, extending⟩ := s
    obtain rfl : extending = false := hextending
    rfl
  | _ => rfl

/-- A release is for the feature that is dragging; others take note of it at most. -/
theorem IsAtRest.handle_up (h : f.IsAtRest) (e : PointerEvent α) (t : GridTurn α σ) :
  ∃ f' : BuiltIn α, f.handle (.pointer .up e) t = ⟨.ok .pass, f', t⟩ ∧ f'.IsAtRest
  := by
  cases h with
  | hover => apply Exists.intro _ ⟨rfl, .hover⟩
  | columnFixation overHandle => apply Exists.intro _ ⟨rfl, .columnFixation overHandle⟩
  | rowFixation overHandle => apply Exists.intro _ ⟨rfl, .rowFixation overHandle⟩
  | columnResizing overHandle => apply Exists.intro _ ⟨rfl, .columnResizing overHandle⟩
  | rowSelection anchor => apply Exists.intro _ ⟨rfl, .rowSelection anchor⟩
  | columnSelection s => apply Exists.intro _ ⟨rfl, .columnSelection _⟩
  | columnMoving => apply Exists.intro _ ⟨rfl, .columnMoving⟩
  | cellSelection anchor focus pointer scroll =>
    apply Exists.intro _ ⟨rfl, .cellSelection anchor focus none none⟩
  | keyPaging => apply Exists.intro _ ⟨rfl, .keyPaging⟩
  | contextMenu s => apply Exists.intro _ ⟨rfl, .contextMenu s⟩

/-- A timer is for the feature that is dragging. -/
theorem IsAtRest.fire (h : f.IsAtRest) (timer : TimerToken) (t : GridTurn α σ) :
  f.fire timer t = ⟨.ok (), f, t⟩
  := by
  cases h with
  | cellSelection anchor focus pointer scroll =>
    cases scroll with
    | none => rfl
    | some scroll => rfl
  | _ => rfl

/-- When the layout is new, no more than the hovered cell is another one. -/
theorem handle_rendered (f : BuiltIn α) (t : GridTurn α σ) :
  ∃ cell, f.handle .rendered t
    = ⟨.ok .pass, f, { t with model := { t.model with hovered := cell } }⟩
  := by
  cases f with
  | hover => exact ⟨none, rfl⟩
  | _ => exact ⟨t.model.hovered, rfl⟩

end Answers

end BuiltIn

end DataGrid
