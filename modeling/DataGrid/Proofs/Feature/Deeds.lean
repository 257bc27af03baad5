import DataGrid.Proofs.Feature.Gesture
import DataGrid.Proofs.Model.Deeds

/-!
# What features do to a model

In its turn a feature does a few deeds, one after the other (`BuiltIn.acts_handle`,
`BuiltIn.acts_fire`).  Columns are resized only while their edge is dragged or when it is clicked
twice, and all else about columns and settings waits for the end of a drag (`BuiltIn.May`).
-/

namespace DataGrid

variable {α σ : Type}

/-- Whether a button is pressed twice. -/
def Input.isDoubleClick : Input α → Bool
  | .pointer .doubleClick _ => true
  | _ => false

namespace BuiltIn

/-- The column whose edge the feature drags. -/
def resizeDrag? : BuiltIn α → Option (ResizeDrag α)
  | .columnResizing s => s.drag
  | _ => none

/-- Whether the feature is in the middle of a drag that arranges columns or rows. -/
def isArranging : BuiltIn α → Bool
  | .columnFixation s => s.dragging.isSome
  | .rowFixation s => s.dragging.isSome
  | .columnResizing s => s.drag.isSome
  | .columnMoving s => s.drag?.isSome
  | _ => false

/-- What a feature may do to the model in answer to an input. -/
def May (f : BuiltIn α) (input : Input α) : Deed α → Prop
  | .resize id _ => (∃ d, f.resizeDrag? = some d ∧ d.column = id) ∨ input.isDoubleClick
  | .noteResize .. => f.isArranging ∧ input.isRelease ∨ input.isDoubleClick
  | .fixColumns _ | .fixRows _ | .move .. => f.isArranging ∧ input.isRelease
  | .scroll .. | .draw _ | .hover _ | .select _ | .askForMenu .. => True

/-- What leaves the columns and the settings alone may always be done. -/
theorem may_of_isHarmless (f : BuiltIn α) (input : Input α) {d : Deed α}
    (hd : d.isHarmless = true) :
  f.May input d
  := by
  cases d with
  | resize | noteResize | fixColumns | fixRows | move => cases hd
  | _ => trivial

end BuiltIn

variable [Pixel α] [DataSource σ]

open Model (Acts Roams Scrolls)

theorem Model.Roams.acts {m m' : Model α σ} (h : m.Roams m') (f : BuiltIn α) (input : Input α) :
  m.Acts (f.May input) m'
  := h.mono fun _ => f.may_of_isHarmless input

theorem Hover.roams_handle (input : Input α) (t : GridTurn α σ) :
  t.model.Roams (Hover.handle input t).turn.model
  := by
  unfold Hover.handle
  split
  · apply Roams.deed (rfl : (Deed.hover _ : Deed α).isHarmless = true)
  · apply Roams.deed (rfl : (Deed.hover _ : Deed α).isHarmless = true)
  · apply Acts.refl

/-! ### Fixing columns and rows -/

theorem ColumnFixation.acts_handle (s : ColumnFixation) (input : Input α) (t : GridTurn α σ) :
  t.model.Acts ((BuiltIn.columnFixation s).May input) (s.handle input t).turn.model
  := by
  unfold handle
  split
  case h_1 => apply Acts.refl
  case h_2 =>
    split
    · apply Roams.acts
      apply (Scrolls.scrollTo _ _ _).roams.trans (Roams.draw _ _)
    · apply Acts.refl
  case h_3 =>
    split
    · apply Acts.refl
    · apply Acts.refl
    · apply Roams.acts (Roams.draw _ _)
  case h_4 =>
    split
    · apply Acts.refl
    · next count hdragging =>
      apply (Roams.acts (Roams.draw _ _) _ _).trans
      apply Acts.deed (d := .fixColumns count)
      refine ⟨?_, rfl⟩
      rw [BuiltIn.isArranging, hdragging]
      rfl
  case h_5 =>
    split
    · apply Roams.acts (Roams.draw _ _)
    · apply Acts.refl
  case h_6 => apply Acts.refl

theorem RowFixation.acts_handle (s : RowFixation) (input : Input α) (t : GridTurn α σ) :
  t.model.Acts ((BuiltIn.rowFixation s).May input) (s.handle input t).turn.model
  := by
  unfold handle
  split
  case h_1 => apply Acts.refl
  case h_2 =>
    split
    · apply Roams.acts
      apply (Scrolls.scrollTo _ _ _).roams.trans (Roams.draw _ _)
    · apply Acts.refl
  case h_3 =>
    split
    · apply Acts.refl
    · apply Acts.refl
    · apply Roams.acts (Roams.draw _ _)
  case h_4 =>
    split
    · apply Acts.refl
    · next count hdragging =>
      apply (Roams.acts (Roams.draw _ _) _ _).trans
      apply Acts.deed (d := .fixRows count)
      refine ⟨?_, rfl⟩
      rw [BuiltIn.isArranging, hdragging]
      rfl
  case h_5 =>
    split
    · apply Roams.acts (Roams.draw _ _)
    · apply Acts.refl
  case h_6 => apply Acts.refl

/-! ### Resizing columns -/

namespace ColumnResizing

theorem acts_noteResize {may : Deed α → Prop}
    (hmay : ∀ id before after, may (.noteResize id before after)) (m : Model α σ) (id : ColumnId)
    (before after : α) :
  m.Acts may (noteResize m id before after)
  := by
  rw [noteResize]
  split
  · apply Acts.deed (hmay id before after)
  · apply Acts.refl

theorem acts_autosize {may : Deed α → Prop} (hresize : ∀ id width, may (.resize id width))
    (hnote : ∀ id before after, may (.noteResize id before after)) (m : Model α σ)
    (id : ColumnId) :
  m.Acts may (autosize m id)
  := by
  rw [autosize]
  split
  · dsimp only
    split
    · apply (Acts.deed (hresize id _) m).trans (acts_noteResize hnote _ _ _ _)
    · apply Acts.deed (hresize id _)
  · apply Acts.refl

theorem acts_handle (s : ColumnResizing α) (input : Input α) (t : GridTurn α σ) :
  t.model.Acts ((BuiltIn.columnResizing s).May input) (s.handle input t).turn.model
  := by
  unfold handle
  split
  case h_1 => apply Acts.refl
  case h_2 =>
    split
    · split
      · apply Acts.refl
      · apply Acts.refl
    · apply Acts.refl
  case h_3 e =>
    split
    · apply Acts.refl
    · next d hd =>
      apply Acts.deed (d := .resize d.column (d.startWidth + (e.point.x - d.startX)))
      exact .inl ⟨d, hd, rfl⟩
  case h_4 =>
    split
    · apply Acts.refl
    · next d hd =>
      have hdragging : (BuiltIn.columnResizing s).isArranging = true := by
        rw [BuiltIn.isArranging, hd]
        rfl
      dsimp only [Step.stop, Turn.modify]
      split
      · apply acts_noteResize
        intro id before after
        exact .inl ⟨hdragging, rfl⟩
      · apply Acts.refl
  case h_5 =>
    split
    · apply Acts.refl
    · apply acts_autosize
      · intro id width
        exact .inr rfl
      · intro id before after
        exact .inr rfl
  case h_6 =>
    split
    · next d hd =>
      split
      · apply Acts.deed (d := .resize d.column d.startWidth)
        exact .inl ⟨d, hd, rfl⟩
      · apply Acts.refl
    · apply Acts.refl
  case h_7 => apply Acts.refl

end ColumnResizing

/-! ### Selecting rows and columns -/

theorem RowSelection.roams_handle (s : RowSelection) (input : Input α) (t : GridTurn α σ) :
  t.model.Roams (s.handle input t).turn.model
  := by
  unfold handle
  split
  case h_1 =>
    split
    · apply Acts.refl
    · apply Roams.select
  case h_2 =>
    split
    · apply Acts.refl
    · split
      · dsimp only
        split
        · apply Acts.refl
        · apply Roams.select
      · apply Acts.refl
  case h_3 =>
    split
    · apply Acts.refl
    · apply Acts.refl
  case h_4 => apply Acts.refl

theorem ColumnSelection.roams_handle (s : ColumnSelection) (input : Input α) (t : GridTurn α σ) :
  t.model.Roams (s.handle input t).turn.model
  := by
  unfold handle
  split
  case h_1 =>
    split
    · apply Acts.refl
    · apply Roams.selectIfNew
  case h_2 =>
    split
    · apply Acts.refl
    · split
      · split
        · apply Acts.refl
        · apply Roams.select
      · apply Acts.refl
  case h_3 => apply Acts.refl
  case h_4 => apply Acts.refl

/-! ### Moving columns -/

namespace ColumnMoving

theorem roams_aim (m : Model α σ) (d : ColumnDrag α) :
  m.Roams (aim m d).1
  := by
  rw [aim]
  split
  · apply Roams.draw
  · apply Acts.refl

theorem roams_scrollStep (d : ColumnDrag α) (direction : Int) (attempt : Nat)
    (t : GridTurn α σ) :
  t.model.Roams (scrollStep d direction attempt t).2.model
  := by
  rw [scrollStep]
  split
  · apply Acts.refl
  · next m hm => apply (Scrolls.of_scrollBy? hm).roams.trans (roams_aim _ _)

theorem roams_follow (d : ColumnDrag α) (e : PointerEvent α) (t : GridTurn α σ) :
  t.model.Roams (follow d e t).2.model
  := by
  unfold follow
  extract_lets _ d' t'
  have h : t.model.Roams t'.model := Roams.draw _ _
  split
  · split
    · apply h
    · apply h.trans (roams_scrollStep _ _ _ _)
  · dsimp only
    split
    · apply h.trans (Roams.draw _ _)
    · apply h.trans (roams_aim _ _)

theorem acts_drop {may : Deed α → Prop} (hmay : ∀ d : Deed α, d.isHarmless = true → may d)
    (hmove : ∀ start count target, may (.move start count target)) (d : ColumnDrag α)
    (m : Model α σ) :
  m.Acts may (drop d m)
  := by
  rw [drop]
  split
  · apply Acts.refl
  · next target _ =>
    have hmoved := Acts.deed (hmove d.start d.count target) m
    rw [Model.act] at hmoved
    split
    · apply Acts.refl
    · next m' hm =>
      rw [hm, Option.getD_some] at hmoved
      apply hmoved.trans
      apply (Roams.selectIfNew _ _).mono hmay

theorem acts_handle (s : ColumnMoving α) (input : Input α) (t : GridTurn α σ) :
  t.model.Acts ((BuiltIn.columnMoving s).May input) (s.handle input t).turn.model
  := by
  unfold handle
  split
  case h_1 =>
    split
    · apply Acts.refl
    · apply Roams.acts
      apply (Roams.draw _ _).trans (Roams.draw _ _)
  case h_2 =>
    split
    · apply Acts.refl
    · apply Roams.acts (roams_follow _ _ _)
  case h_3 =>
    split
    · apply Acts.refl
    · apply Roams.acts (Roams.draw _ _)
    · apply (Roams.acts (Roams.draw _ _) _ _).trans
      apply acts_drop
      · intro d hd
        apply BuiltIn.may_of_isHarmless _ _ hd
      · intro start count target
        exact ⟨rfl, rfl⟩
  case h_4 =>
    split
    · apply Roams.acts (Roams.draw _ _)
    · apply Acts.refl
  case h_5 => apply Acts.refl

theorem roams_fire (s : ColumnMoving α) (timer : TimerToken) (t : GridTurn α σ) :
  t.model.Roams (s.fire timer t).2.model
  := by
  unfold fire
  split
  · split
    · apply roams_scrollStep
    · apply Acts.refl
  · apply Acts.refl

end ColumnMoving

/-! ### Selecting cells -/

namespace CellSelection

theorem roams_extendTo (s : CellSelection α) (m : Model α σ) (cell : CellPlace) :
  m.Roams (s.extendTo m cell).2
  := by
  rw [extendTo]
  split
  · apply Acts.refl
  · dsimp only
    split
    · apply Acts.refl
    · apply Roams.select

theorem roams_extendTo? (s : CellSelection α) (m : Model α σ) (cell? : Option CellPlace) :
  m.Roams (s.extendTo? m cell?).2
  := by
  cases cell? with
  | none => apply Acts.refl
  | some cell => apply roams_extendTo

theorem roams_scrollStep (s : CellSelection α) (columns rows : Int) (t : GridTurn α σ) :
  t.model.Roams (s.scrollStep columns rows t).2.model
  := by
  rw [scrollStep]
  split
  · apply Acts.refl
  · next m hm => apply (Scrolls.of_scrollBy? hm).roams.trans (roams_extendTo? _ _ _)

theorem roams_dragScroll (s : CellSelection α) (p : Point α) (t : GridTurn α σ) :
  t.model.Roams (s.dragScroll p t).2.model
  := by
  rw [dragScroll]
  split
  · apply Acts.refl
  · split
    · apply Acts.refl
    · apply roams_scrollStep

theorem roams_press (s : CellSelection α) (e : PointerEvent α) (cell : CellPlace)
    (m : Model α σ) :
  m.Roams (s.press e cell m).2
  := by
  rw [press]
  dsimp only
  split
  · apply Roams.select
  · apply Roams.select

theorem roams_stepOn (s : CellSelection α) (m : Model α σ) (start : CellPlace)
    (delta : Int × Int) (modifiers : Modifiers) :
  m.Roams (s.stepOn m start delta modifiers).2
  := by
  rw [stepOn]
  dsimp only
  split
  · apply (roams_extendTo _ _ _).trans (scrolls_reveal _ _).roams
  · apply (Roams.selectIfNew _ _).trans (scrolls_reveal _ _).roams

theorem roams_of_selectAll? {s s' : CellSelection α} {m m' : Model α σ}
    (h : s.selectAll? m = some (s', m')) :
  m.Roams m'
  := by
  rw [selectAll?] at h
  split at h
  · cases h
  · obtain rfl := congrArg Prod.snd (Option.some.inj h)
    apply Roams.select

theorem roams_of_key? {s s' : CellSelection α} {e : KeyEvent} {m m' : Model α σ}
    (h : s.key? e m = some (s', m')) :
  m.Roams m'
  := by
  rw [key?] at h
  split at h
  · split at h
    · cases h
    · obtain ⟨rfl, rfl⟩ := Option.some.inj h
      apply Roams.select
  · split at h
    · split at h
      · apply roams_of_selectAll? h
      · cases h
    · obtain ⟨delta, -, h⟩ := Option.bind_eq_some_iff.mp h
      obtain ⟨start, -, h⟩ := Option.bind_eq_some_iff.mp h
      obtain rfl := congrArg Prod.snd (Option.some.inj h)
      apply roams_stepOn

theorem roams_handle (s : CellSelection α) (input : Input α) (t : GridTurn α σ) :
  t.model.Roams (s.handle input t).turn.model
  := by
  unfold handle
  split
  case h_1 =>
    split
    · apply Acts.refl
    · apply roams_press
  case h_2 =>
    split
    · apply Acts.refl
    · apply (roams_dragScroll _ _ _).trans (roams_extendTo? _ _ _)
  case h_3 =>
    split
    · apply Acts.refl
    · apply Acts.refl
  case h_4 =>
    split
    · apply Acts.refl
    · next hkey => apply roams_of_key? hkey
  case h_5 => apply Acts.refl

theorem roams_fire (s : CellSelection α) (timer : TimerToken) (t : GridTurn α σ) :
  t.model.Roams (s.fire timer t).2.model
  := by
  rw [fire]
  split
  · apply Acts.refl
  · apply roams_scrollStep

end CellSelection

/-! ### Keys and menus -/

namespace KeyPaging

theorem roams_handle (input : Input α) (t : GridTurn α σ) :
  t.model.Roams (handle input t).turn.model
  := by
  unfold handle
  split
  · split
    · next m hm =>
      split at hm
      · apply (scrolls_of_pageColumns? hm).roams
      · apply (scrolls_of_pageRows? hm).roams
    · apply Acts.refl
  · apply Acts.refl

end KeyPaging

namespace ContextMenu

/-- The notice of a request for a context menu. -/
theorem roams_emit {e : PointerEvent α} {n : Notice α} (h : request? e = some n)
    (m : Model α σ) :
  m.Roams (m.emit n)
  := by
  obtain ⟨c, -, rfl⟩ := Option.map_eq_some_iff.mp h
  have hharmless : (Deed.askForMenu e.point c.cell.gridCell c.cell.dataCell).isHarmless = true := rfl
  apply Roams.deed hharmless

theorem roams_handle (s : ContextMenu) (input : Input α) (t : GridTurn α σ) :
  t.model.Roams (s.handle input t).turn.model
  := by
  unfold handle
  split
  · split
    · next n hn =>
      split at hn
      · apply roams_emit hn
      · cases hn
    · apply Acts.refl
  · split
    · apply Acts.refl
    · split
      · next n hn => apply roams_emit hn
      · apply Acts.refl
  · apply Acts.refl

end ContextMenu

/-! ### All features -/

namespace BuiltIn

theorem acts_handle (f : BuiltIn α) (input : Input α) (t : GridTurn α σ) :
  t.model.Acts (f.May input) (f.handle input t).turn.model
  := by
  cases f with
  | hover => apply Roams.acts (Hover.roams_handle input t)
  | columnFixation s => apply s.acts_handle
  | rowFixation s => apply s.acts_handle
  | columnResizing s => apply s.acts_handle
  | rowSelection s => apply Roams.acts (s.roams_handle input t)
  | columnSelection s => apply Roams.acts (s.roams_handle input t)
  | columnMoving s => apply s.acts_handle
  | cellSelection s => apply Roams.acts (s.roams_handle input t)
  | keyPaging => apply Roams.acts (KeyPaging.roams_handle input t)
  | contextMenu s => apply Roams.acts (s.roams_handle input t)

/-- A timer leaves the columns and the settings alone. -/
theorem roams_fire (f : BuiltIn α) (timer : TimerToken) (t : GridTurn α σ) :
  t.model.Roams (f.fire timer t).turn.model
  := by
  cases f with
  | columnMoving s => apply s.roams_fire
  | cellSelection s => apply s.roams_fire
  | _ => apply Acts.refl

end BuiltIn

end DataGrid
