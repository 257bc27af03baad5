import DataGrid.Proofs.Grid.Effects
import DataGrid.Proofs.Pipeline.Gestures

/-!
# What is drawn

Whatever a host does to a grid, presses upon presses included, a part of what is drawn over it
belongs to a feature in the middle of a drag (`Pipeline.IsDrawn`).  So while no feature drags,
nothing is drawn (`Pipeline.IsDrawn.overlays_eq`).
-/

namespace DataGrid

variable {α σ : Type}

namespace Overlays

/-- A part of what is drawn, which one kind of feature draws. -/
inductive Part where
  | columnDrag
  | fixedColumnBar
  | fixedRowBar

/-- Nothing of the part is drawn. -/
def Lacks (o : Overlays α) : Part → Prop
  | .columnDrag => o.floater = .none ∧ o.dropBar = .none
  | .fixedColumnBar => o.fixedColumnBar = .none
  | .fixedRowBar => o.fixedRowBar = .none

theorem lacks_none (part : Part) :
  (none : Overlays α).Lacks part
  := by
  cases part with
  | columnDrag => exact ⟨rfl, rfl⟩
  | fixedColumnBar => rfl
  | fixedRowBar => rfl

/-- The parts are all that is drawn. -/
theorem eq_none_of_lacks {o : Overlays α} (h : ∀ part, o.Lacks part) :
  o = .none
  := by
  obtain ⟨floater, dropBar, fixedColumnBar, fixedRowBar⟩ := o
  obtain ⟨rfl, rfl⟩ : floater = .none ∧ dropBar = .none := h .columnDrag
  obtain rfl : fixedColumnBar = .none := h .fixedColumnBar
  obtain rfl : fixedRowBar = .none := h .fixedRowBar
  rfl

end Overlays

open Overlays (Part)

namespace BuiltIn

/-- The part that the feature draws while it drags. -/
def part? : BuiltIn α → Option Part
  | .columnFixation _ => some .fixedColumnBar
  | .rowFixation _ => some .fixedRowBar
  | .columnMoving _ => some .columnDrag
  | _ => none

theorem lacks_undrawn_iff (f : BuiltIn α) (o : Overlays α) (part : Part) :
  (f.undrawn o).Lacks part ↔ f.part? = some part ∨ o.Lacks part
  := by
  cases f with
  | columnFixation | rowFixation | columnMoving =>
    cases part <;> simp [undrawn, part?, Overlays.Lacks, Overlays.withoutColumnDrag]
  | _ => simp [undrawn, part?]

variable {f : BuiltIn α} {part : Part} {o o' : Overlays α}

/-- A feature leaves the parts of others alone. -/
theorem lacks_of_undrawn_eq (h : f.undrawn o' = f.undrawn o) (hpart : f.part? ≠ some part)
    (ho : o.Lacks part) :
  o'.Lacks part
  := by
  have hlacks : (f.undrawn o').Lacks part := by
    rw [h]
    apply (f.lacks_undrawn_iff o part).mpr (.inr ho)
  obtain hsame | ho' := (f.lacks_undrawn_iff o' part).mp hlacks
  · cases hpart hsame
  · apply ho'

variable [Pixel α] [DataSource σ]

theorem part?_handle (f : BuiltIn α) (input : Input α) (t : GridTurn α σ) :
  (f.handle input t).feature.part? = f.part?
  := by
  cases f <;> rfl

theorem part?_fire (f : BuiltIn α) (timer : TimerToken) (t : GridTurn α σ) :
  (f.fire timer t).feature.part? = f.part?
  := by
  cases f <;> rfl

theorem undrawn_handle (f : BuiltIn α) (input : Input α) (t : GridTurn α σ) :
  (f.handle input t).feature.undrawn = f.undrawn
  := by
  cases f <;> rfl

/-- What a turn may do to what is drawn. -/
inductive Redraws (f f' : BuiltIn α) (o o' : Overlays α) : Prop where
  /-- A feature at rest draws nothing. -/
  | rests (before : f.isDragging = false) (overlays : o' = o)
  /-- A feature that drags then may draw its part. -/
  | drags (after : f'.isDragging = true) (overlays : f.undrawn o' = f.undrawn o)
  /-- When a drag ends, its part is taken away. -/
  | ends (overlays : o' = f.undrawn o)

/-- A further press in the middle of a drag does not end it. -/
theorem redraws_press {f : BuiltIn α} (h : f.isDragging = true) (e : PointerEvent α)
    (t : GridTurn α σ) :
  let r := f.handle (.pointer .down e) t
  r.feature.isDragging = true ∧ f.undrawn r.turn.model.overlays = f.undrawn t.model.overlays
  := by
  cases f with
  | hover | columnSelection | keyPaging | contextMenu => cases h
  | columnFixation s =>
    simp only [handle, ColumnFixation.handle]
    split
    · exact ⟨rfl, rfl⟩
    · exact ⟨h, rfl⟩
  | rowFixation s =>
    simp only [handle, RowFixation.handle]
    split
    · exact ⟨rfl, rfl⟩
    · exact ⟨h, rfl⟩
  | columnResizing s =>
    simp only [handle, ColumnResizing.handle]
    split
    · split
      · exact ⟨rfl, rfl⟩
      · exact ⟨h, rfl⟩
    · exact ⟨h, rfl⟩
  | rowSelection s =>
    simp only [handle, RowSelection.handle]
    split
    · exact ⟨h, rfl⟩
    · exact ⟨rfl, rfl⟩
  | columnMoving s =>
    simp only [handle, ColumnMoving.handle]
    split
    · exact ⟨h, rfl⟩
    · exact ⟨rfl, rfl⟩
  | cellSelection s =>
    simp only [handle, CellSelection.handle]
    split
    · exact ⟨h, rfl⟩
    · apply s.press_keeps

theorem redraws_handle (f : BuiltIn α) (input : Input α) (t : GridTurn α σ) :
  let r := f.handle input t
  Redraws f r.feature t.model.overlays r.turn.model.overlays
  := by
  intro r
  by_cases h : input.isPress = false ∨ f.isDragging = false
  case pos =>
    cases f.gestures_handle input t h with
    | rests before after overlays => exact .rests before overlays
    | grabs press before result after overlays =>
      rw [undrawn_handle] at overlays
      exact .drags after overlays
    | drags before release after undrawn overlays => exact .drags after overlays
    | ends before after overlays => exact .ends overlays
  case neg =>
    obtain ⟨hpress, hdragging⟩ := not_or.mp h
    rw [Bool.not_eq_false] at hpress hdragging
    unfold Input.isPress at hpress
    split at hpress
    · next e =>
      obtain ⟨after, overlays⟩ := redraws_press hdragging e t
      exact .drags after overlays
    · cases hpress

theorem redraws_fire (f : BuiltIn α) (timer : TimerToken) (t : GridTurn α σ) :
  let r := f.fire timer t
  Redraws f r.feature t.model.overlays r.turn.model.overlays
  := by
  cases hdragging : f.isDragging with
  | true =>
    obtain ⟨hstill, -, hoverlays, -⟩ := f.fire_keeps timer t
    exact .drags (hstill.trans hdragging) hoverlays
  | false =>
    rw [(isAtRest_of_isDragging hdragging).fire]
    exact .rests hdragging rfl

end BuiltIn

/-! ### Pipelines -/

namespace Pipeline

/-- Every part that is drawn is one of a feature in the middle of a drag. -/
def IsDrawn (p : Pipeline (BuiltIn α)) (m : Model α σ) : Prop :=
  ∀ part, m.overlays.Lacks part
    ∨ ∃ f ∈ p.features, f.isDragging = true ∧ f.part? = some part

variable {p : Pipeline (BuiltIn α)} {m : Model α σ} {i : Nat} {f : BuiltIn α}

/-- While no feature drags, nothing is drawn. -/
theorem IsDrawn.overlays_eq (h : p.IsDrawn m) (hrest : ∀ f ∈ p.features, f.isDragging = false) :
  m.overlays = .none
  := by
  apply Overlays.eq_none_of_lacks
  intro part
  obtain hlacks | ⟨f, hf, hdragging, -⟩ := h part
  · apply hlacks
  · cases (hrest f hf).symm.trans hdragging

/-- Nothing is wrong if nothing more is drawn. -/
theorem IsDrawn.congr (h : p.IsDrawn m) {m' : Model α σ}
    (hm : m'.overlays = m.overlays ∨ m'.overlays = .none) :
  p.IsDrawn m'
  := by
  intro part
  obtain hm | hm := hm
  · rw [hm]
    apply h part
  · rw [hm]
    exact .inl (Overlays.lacks_none part)

theorem IsDrawn.after {β : Type} (h : p.IsDrawn m) (hf : p.features[i]? = some f) {now : Float}
    {r : Reply β (BuiltIn α) (Model α σ)} (hpart : r.feature.part? = f.part?)
    (hredraws : BuiltIn.Redraws f r.feature m.overlays r.turn.model.overlays) :
  (p.after i now r).IsDrawn r.turn.model
  := by
  -- a feature that drags is the one that has had its turn, or it still drags
  have hothers (part : Part) (h : ∃ g ∈ p.features, g.isDragging = true ∧ g.part? = some part) :=
    exists_mem_features_after hf now r h
  intro part
  cases hredraws with
  | rests before overlays =>
    rw [overlays]
    obtain hlacks | hdrawn := h part
    · exact .inl hlacks
    · obtain ⟨hdragging, -⟩ | hother := hothers part hdrawn
      · cases before.symm.trans hdragging
      · exact .inr hother
  | drags after overlays =>
    by_cases hown : f.part? = some part
    · exact .inr ⟨r.feature, mem_features_after hf now r, after, hpart.trans hown⟩
    · obtain hlacks | hdrawn := h part
      · exact .inl (BuiltIn.lacks_of_undrawn_eq overlays hown hlacks)
      · obtain ⟨-, hsame⟩ | hother := hothers part hdrawn
        · cases hown hsame
        · exact .inr hother
  | ends overlays =>
    rw [overlays]
    obtain hlacks | hdrawn := h part
    · exact .inl ((f.lacks_undrawn_iff _ part).mpr (.inr hlacks))
    · obtain ⟨-, hsame⟩ | hother := hothers part hdrawn
      · exact .inl ((f.lacks_undrawn_iff _ part).mpr (.inl hsame))
      · exact .inr hother

end Pipeline

/-! ### Grids -/

namespace Grid

variable [Pixel α] [DataSource σ]

/-- Only features in the middle of a drag draw, whatever happens. -/
theorem keeps_isDrawn :
  Keeps (α := α) (σ := σ) fun (p : Pipeline (BuiltIn α)) m => p.IsDrawn m
  := by
  constructor
  · constructor
    · intro p m i f input now h hf
      apply h.after hf (f.part?_handle input _) (f.redraws_handle input (p.turn m i now))
    · intro p m i f token now h hf
      apply h.after hf (f.part?_fire token _) (f.redraws_fire token (p.turn m i now))
    · intro p m h
      apply h
    · intro p m now h
      apply h
  · intro p m h
    apply h
  · intro p m h
    apply h

theorem isDrawn_perform {g : Grid α σ (BuiltIn α)} (h : g.pipeline.IsDrawn g.model)
    (c : Call α σ) :
  (g.perform c).grid.pipeline.IsDrawn (g.perform c).grid.model
  := by
  apply keeps_isDrawn.perform
  · intro c f p m hc hp
    apply hp.congr (.inl (Call.overlays_change? hc m))
  · intro data schema p m hp
    apply hp.congr (.inr (m.overlays_load data schema))
  · intro x y value p m hp
    apply hp
  · apply h

end Grid

end DataGrid
