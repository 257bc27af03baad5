import DataGrid.Proofs.Feature.ColumnDrag
import DataGrid.Proofs.Feature.Rest
import DataGrid.Proofs.Model.Deeds

/-!
# Gestures of features

A feature begins a drag with a press and nothing else, and then it stops the press.  While it drags
it alone draws over the grid, and a release ends the drag and takes away what was drawn
(`BuiltIn.Gestures`, `BuiltIn.gestures_handle`).
-/

namespace DataGrid

variable {α σ : Type}

namespace Input

/-- Whether a button goes down. -/
def isPress : Input α → Bool
  | .pointer .down _ => true
  | _ => false

/-- Whether a button goes up. -/
def isRelease : Input α → Bool
  | .pointer .up _ => true
  | _ => false

theorem isRelease_eq_false {input : Input α} (h : ∀ e, input = .pointer .up e → False) :
  input.isRelease = false
  := by
  unfold isRelease
  split
  · cases h _ rfl
  · rfl

end Input

/-! ### Changes that draw nothing -/

namespace Model

@[simp]
theorem overlays_selectIfNew (m : Model α σ) (s : Selection) :
  (m.selectIfNew s).overlays = m.overlays
  := by
  rw [selectIfNew]
  split
  · rfl
  · rfl

variable [Pixel α] [DataSource σ]

@[simp]
theorem overlays_setFixedColumns (m : Model α σ) (count : Nat) :
  (m.setFixedColumns count).overlays = m.overlays
  := by
  rw [setFixedColumns]
  dsimp only
  split
  · rfl
  · rfl

@[simp]
theorem overlays_setFixedRows (m : Model α σ) (count : Nat) :
  (m.setFixedRows count).overlays = m.overlays
  := by
  rw [setFixedRows]
  dsimp only
  split
  · rfl
  · rfl

theorem overlays_moveColumns? {m m' : Model α σ} {start count target : Nat}
    (h : m.moveColumns? start count target = some m') :
  m'.overlays = m.overlays
  := by
  obtain ⟨columns, -, rfl⟩ := Option.map_eq_some_iff.mp h
  apply overlays_selectIfNew

@[simp]
theorem overlays_setColumnWidth (m : Model α σ) (id : ColumnId) (width : α) :
  (m.setColumnWidth id width).overlays = m.overlays
  := by
  rw [setColumnWidth]
  split
  · rfl
  · rfl

end Model

variable [Pixel α] [DataSource σ]

open Model (Acts Scrolls)

namespace ColumnResizing

omit [DataSource σ] in
@[simp]
theorem overlays_noteResize (m : Model α σ) (id : ColumnId) (before after : α) :
  (noteResize m id before after).overlays = m.overlays
  := by
  rw [noteResize]
  split
  · rfl
  · rfl

@[simp]
theorem overlays_autosize (m : Model α σ) (id : ColumnId) :
  (autosize m id).overlays = m.overlays
  := by
  rw [autosize]
  split
  · dsimp only
    split
    · rw [overlays_noteResize, Model.overlays_setColumnWidth]
    · apply Model.overlays_setColumnWidth
  · rfl

end ColumnResizing

namespace KeyPaging

theorem scrolls_of_pageColumns? {m m' : Model α σ} {key : String}
    (h : pageColumns? m key = some m') :
  m.Scrolls m'
  := by
  unfold pageColumns? at h
  split at h
  case h_1 | h_2 =>
    obtain rfl := Option.some.inj h
    apply Scrolls.scrollBy
  case h_3 | h_4 =>
    obtain rfl := Option.some.inj h
    apply Scrolls.scrollTo
  case h_5 => cases h

theorem scrolls_of_pageRows? {m m' : Model α σ} {key : String} (h : pageRows? m key = some m') :
  m.Scrolls m'
  := by
  unfold pageRows? at h
  split at h
  case h_1 | h_2 =>
    obtain rfl := Option.some.inj h
    apply Scrolls.scrollBy
  case h_3 | h_4 =>
    obtain rfl := Option.some.inj h
    apply Scrolls.scrollTo
  case h_5 => cases h

end KeyPaging

namespace CellSelection

omit [Pixel α] [DataSource σ] in
/-- Reaching on to a cell draws nothing and leaves a drag as it is. -/
theorem extendTo?_keeps (s : CellSelection α) (m : Model α σ) (cell? : Option CellPlace) :
  (s.extendTo? m cell?).1.dragging = s.dragging
    ∧ (s.extendTo? m cell?).2.overlays = m.overlays
  := by
  cases cell? with
  | none => exact ⟨rfl, rfl⟩
  | some cell =>
    rw [extendTo?, extendTo]
    split
    · exact ⟨rfl, rfl⟩
    · refine ⟨rfl, ?_⟩
      dsimp only
      split
      · rfl
      · rfl

theorem scrolls_revealColumnBy (column : Nat) :
  ∀ (left : Nat) (m : Model α σ), m.Scrolls (revealColumnBy column left m)
  | 0, m => Acts.refl m
  | left + 1, m => by
    rw [revealColumnBy]
    split
    · apply Acts.refl
    · split
      · apply Acts.refl
      · next m' hm => apply (Scrolls.of_scrollBy? hm).trans (scrolls_revealColumnBy column left m')

theorem scrolls_revealRowBy (row : Nat) :
  ∀ (left : Nat) (m : Model α σ), m.Scrolls (revealRowBy row left m)
  | 0, m => Acts.refl m
  | left + 1, m => by
    rw [revealRowBy]
    split
    · apply Acts.refl
    · split
      · apply Acts.refl
      · next m' hm => apply (Scrolls.of_scrollBy? hm).trans (scrolls_revealRowBy row left m')

theorem scrolls_revealColumn (m : Model α σ) (column : Nat) :
  m.Scrolls (revealColumn m column)
  := by
  unfold revealColumn
  dsimp only
  split
  · apply Acts.refl
  · split
    · apply Scrolls.scrollTo
    · apply scrolls_revealColumnBy

theorem scrolls_revealRow (m : Model α σ) (row : Nat) :
  m.Scrolls (revealRow m row)
  := by
  unfold revealRow
  dsimp only
  split
  · apply Acts.refl
  · split
    · apply Scrolls.scrollTo
    · apply scrolls_revealRowBy

theorem scrolls_reveal (m : Model α σ) (cell : CellPlace) :
  m.Scrolls (reveal m cell)
  := (scrolls_revealColumn _ _).trans (scrolls_revealRow _ _)

/-- A step of scrolling draws nothing, leaves a drag as it is, and asks nothing of the pipeline. -/
theorem scrollStep_keeps (s : CellSelection α) (columns rows : Int) (t : GridTurn α σ) :
  (s.scrollStep columns rows t).1.dragging = s.dragging
    ∧ (s.scrollStep columns rows t).2.model.overlays = t.model.overlays
    ∧ (s.scrollStep columns rows t).2.request = t.request
  := by
  rw [scrollStep]
  split
  case h_1 => exact ⟨rfl, rfl, rfl⟩
  case h_2 m hscroll =>
    obtain ⟨hdragging, hoverlays⟩ := s.extendTo?_keeps m (s.pointer.bind (nearestCell? m))
    rw [(Scrolls.of_scrollBy? hscroll).overlays_eq] at hoverlays
    exact ⟨hdragging, hoverlays, rfl⟩

theorem dragScroll_keeps (s : CellSelection α) (p : Point α) (t : GridTurn α σ) :
  (s.dragScroll p t).1.dragging = s.dragging
    ∧ (s.dragScroll p t).2.model.overlays = t.model.overlays
    ∧ (s.dragScroll p t).2.request = t.request
  := by
  rw [dragScroll]
  split
  · exact ⟨rfl, rfl, rfl⟩
  · split
    · exact ⟨rfl, rfl, rfl⟩
    · apply scrollStep_keeps

omit [Pixel α] [DataSource σ] in
theorem press_keeps (s : CellSelection α) (e : PointerEvent α) (cell : CellPlace)
    (m : Model α σ) :
  (s.press e cell m).1.dragging = true ∧ (s.press e cell m).2.overlays = m.overlays
  := by
  rw [press]
  split
  · exact ⟨rfl, rfl⟩
  · exact ⟨rfl, rfl⟩

omit [Pixel α] [DataSource σ] in
theorem selectCell_keeps (s : CellSelection α) (m : Model α σ) (cell : CellPlace) :
  (s.selectCell m cell).1.dragging = s.dragging ∧ (s.selectCell m cell).2.overlays = m.overlays
  := ⟨rfl, Model.overlays_selectIfNew _ _⟩

theorem stepOn_keeps (s : CellSelection α) (m : Model α σ) (start : CellPlace)
    (delta : Int × Int) (modifiers : Modifiers) :
  (s.stepOn m start delta modifiers).1.dragging = s.dragging
    ∧ (s.stepOn m start delta modifiers).2.overlays = m.overlays
  := by
  rw [stepOn]
  dsimp only
  rw [(scrolls_reveal _ _).overlays_eq]
  split
  · apply s.extendTo?_keeps m (some _)
  · apply selectCell_keeps

/-- A key can end a drag but not begin one, and it draws nothing. -/
theorem of_key? {s s' : CellSelection α} {e : KeyEvent} {m m' : Model α σ}
    (h : s.key? e m = some (s', m')) :
  (s'.dragging = true → s.dragging = true) ∧ m'.overlays = m.overlays
  := by
  rw [key?] at h
  split at h
  · split at h
    · cases h
    · cases h
      refine ⟨?_, rfl⟩
      rintro ⟨⟩
  · split at h
    · split at h
      · rw [selectAll?] at h
        split at h
        · cases h
        · cases h
          exact ⟨id, rfl⟩
      · cases h
    · obtain ⟨delta, -, h⟩ := Option.bind_eq_some_iff.mp h
      obtain ⟨start, -, h⟩ := Option.bind_eq_some_iff.mp h
      obtain ⟨hdragging, hoverlays⟩ := s.stepOn_keeps m start delta e.modifiers
      rw [Option.some.inj h] at hdragging hoverlays
      exact ⟨fun hs => hdragging ▸ hs, hoverlays⟩

end CellSelection

namespace ColumnMoving

omit [Pixel α] [DataSource σ] in
theorem eq_idle {s : ColumnMoving α} (h : s.drag?.isSome = false) :
  s = .idle
  := by
  cases s with
  | idle => rfl
  | armed d => cases h
  | dragging d => cases h

theorem overlays_scrollStep (d : ColumnDrag α) (direction : Int) (attempt : Nat)
    (t : GridTurn α σ) :
  (scrollStep d direction attempt t).2.model.overlays.withoutColumnDrag
    = t.model.overlays.withoutColumnDrag
  := by
  rw [scrollStep]
  split
  case h_1 => rfl
  case h_2 m hscroll =>
    rw [← (Scrolls.of_scrollBy? hscroll).overlays_eq]
    dsimp only
    rw [aim]
    split
    · rfl
    · rfl

theorem overlays_follow (d : ColumnDrag α) (e : PointerEvent α) (t : GridTurn α σ) :
  (follow d e t).2.model.overlays.withoutColumnDrag = t.model.overlays.withoutColumnDrag
  := by
  rw [follow]
  split
  case h_1 =>
    split
    · rfl
    · apply (overlays_scrollStep _ _ _ _).trans
      rfl
  case h_2 =>
    dsimp only
    split
    · rfl
    · rw [aim]
      split
      · rfl
      · rfl

theorem overlays_drop (d : ColumnDrag α) (m : Model α σ) :
  (drop d m).overlays = m.overlays
  := by
  rw [drop]
  split
  case h_1 => rfl
  case h_2 =>
    split
    case h_1 => rfl
    case h_2 m' hmove =>
      dsimp only
      rw [Model.overlays_selectIfNew, Model.overlays_moveColumns? hmove]

end ColumnMoving

/-! ### What a feature makes of an input -/

namespace BuiltIn

/-- The overlays without those that the feature draws while it drags. -/
def undrawn : BuiltIn α → Overlays α → Overlays α
  | .columnFixation _, o => { o with fixedColumnBar := none }
  | .rowFixation _, o => { o with fixedRowBar := none }
  | .columnMoving _, o => o.withoutColumnDrag
  | _, o => o

/-- What a feature may make of an input that is no press in the middle of its own drag. -/
inductive Gestures (f : BuiltIn α) (input : Input α) (t : GridTurn α σ)
    (r : Reply Flow (BuiltIn α) (Model α σ)) : Prop where
  /-- The feature does not drag; a release is for others. -/
  | rests (before : f.isDragging = false) (after : r.feature.isDragging = false)
    (overlays : r.turn.model.overlays = t.model.overlays) (request : r.turn.request = t.request)
    (result : input.isRelease = true → r.result = .ok .pass)
  /-- The feature begins to drag, and no other one sees the press. -/
  | grabs (press : input.isPress = true) (before : f.isDragging = false)
    (result : r.result = .ok .stop) (after : r.feature.isDragging = true)
    (overlays : r.feature.undrawn r.turn.model.overlays = r.feature.undrawn t.model.overlays)
    (request : r.turn.request = t.request
      ∨ r.turn.request = { t.request with detach := true })
  /-- The feature goes on dragging. -/
  | drags (before : f.isDragging = true) (release : input.isRelease = false)
    (after : r.feature.isDragging = true) (undrawn : r.feature.undrawn = f.undrawn)
    (overlays : f.undrawn r.turn.model.overlays = f.undrawn t.model.overlays)
    (request : r.turn.request = t.request)
  /-- The feature stops dragging and draws nothing any more. -/
  | ends (before : f.isDragging = true) (after : r.feature.isDragging = false)
    (overlays : r.turn.model.overlays = f.undrawn t.model.overlays)
    (request : r.turn.request.detach = t.request.detach)

variable {input : Input α} {t : GridTurn α σ}

omit [Pixel α] [DataSource σ] in
/-- A feature that does not drag hands an input on and changes nothing. -/
theorem Gestures.idle {f : BuiltIn α} (h : f.isDragging = false) :
  Gestures f input t ⟨.ok .pass, f, t⟩
  := .rests h h rfl rfl fun _ => rfl

omit [Pixel α] [DataSource σ] in
/-- A feature that does not drag takes an input that is no release. -/
theorem Gestures.takes {f : BuiltIn α} {r : Reply Flow (BuiltIn α) (Model α σ)}
    (release : input.isRelease = false) (before : f.isDragging = false)
    (after : r.feature.isDragging = false) (overlays : r.turn.model.overlays = t.model.overlays)
    (request : r.turn.request = t.request) :
  Gestures f input t r
  := by
  apply Gestures.rests before after overlays request
  intro hrelease
  cases release.symm.trans hrelease

theorem gestures_columnFixation (s : ColumnFixation)
    (h : input.isPress = false ∨ s.dragging.isSome = false) :
  Gestures (.columnFixation s) input t ((BuiltIn.columnFixation s).handle input t)
  := by
  obtain ⟨_ | count, overHandle⟩ := s
  case none =>
    simp only [handle, ColumnFixation.handle]
    split
    case h_1 => exact .rests rfl rfl rfl rfl fun _ => rfl
    case h_2 =>
      split
      · exact .grabs rfl rfl rfl rfl rfl (.inl rfl)
      · apply Gestures.idle rfl
    case h_5 =>
      rw [Option.isSome_none, Bool.and_false]
      apply Gestures.idle rfl
    all_goals apply Gestures.idle rfl
  case some =>
    simp only [handle, ColumnFixation.handle]
    split
    case h_1 => exact .drags rfl rfl rfl rfl rfl rfl
    case h_2 => simp [Input.isPress] at h
    case h_3 e =>
      cases ColumnFixation.target? t.model e.point.x with
      | none => exact .drags rfl rfl rfl rfl rfl rfl
      | some count => exact .drags rfl rfl rfl rfl rfl rfl
    case h_4 => exact .ends rfl rfl (Model.overlays_setFixedColumns _ _) rfl
    case h_5 =>
      split
      · exact .ends rfl rfl rfl rfl
      · exact .drags rfl rfl rfl rfl rfl rfl
    case h_6 hup _ => exact .drags rfl (Input.isRelease_eq_false hup) rfl rfl rfl rfl

theorem gestures_rowFixation (s : RowFixation)
    (h : input.isPress = false ∨ s.dragging.isSome = false) :
  Gestures (.rowFixation s) input t ((BuiltIn.rowFixation s).handle input t)
  := by
  obtain ⟨_ | count, overHandle⟩ := s
  case none =>
    simp only [handle, RowFixation.handle]
    split
    case h_1 => exact .rests rfl rfl rfl rfl fun _ => rfl
    case h_2 =>
      split
      · exact .grabs rfl rfl rfl rfl rfl (.inl rfl)
      · apply Gestures.idle rfl
    case h_5 =>
      rw [Option.isSome_none, Bool.and_false]
      apply Gestures.idle rfl
    all_goals apply Gestures.idle rfl
  case some =>
    simp only [handle, RowFixation.handle]
    split
    case h_1 => exact .drags rfl rfl rfl rfl rfl rfl
    case h_2 => simp [Input.isPress] at h
    case h_3 e =>
      cases RowFixation.target? t.model e.point.y with
      | none => exact .drags rfl rfl rfl rfl rfl rfl
      | some count => exact .drags rfl rfl rfl rfl rfl rfl
    case h_4 => exact .ends rfl rfl (Model.overlays_setFixedRows _ _) rfl
    case h_5 =>
      split
      · exact .ends rfl rfl rfl rfl
      · exact .drags rfl rfl rfl rfl rfl rfl
    case h_6 hup _ => exact .drags rfl (Input.isRelease_eq_false hup) rfl rfl rfl rfl

theorem gestures_columnResizing (s : ColumnResizing α)
    (h : input.isPress = false ∨ s.drag.isSome = false) :
  Gestures (.columnResizing s) input t ((BuiltIn.columnResizing s).handle input t)
  := by
  obtain ⟨_ | d, overDivider⟩ := s
  case none =>
    simp only [handle, ColumnResizing.handle]
    split
    case h_1 => exact .rests rfl rfl rfl rfl fun _ => rfl
    case h_2 =>
      split
      · split
        · exact .grabs rfl rfl rfl rfl rfl (.inl rfl)
        · apply Gestures.idle rfl
      · apply Gestures.idle rfl
    case h_5 =>
      split
      · apply Gestures.idle rfl
      · exact .takes rfl rfl rfl (ColumnResizing.overlays_autosize _ _) rfl
    all_goals apply Gestures.idle rfl
  case some =>
    simp only [handle, ColumnResizing.handle]
    split
    case h_1 => exact .drags rfl rfl rfl rfl rfl rfl
    case h_2 => simp [Input.isPress] at h
    case h_3 => exact .drags rfl rfl rfl rfl (Model.overlays_setColumnWidth _ _ _) rfl
    case h_4 =>
      refine .ends rfl rfl ?_ rfl
      dsimp only [reply, Step.stop, Turn.modify]
      split
      · apply ColumnResizing.overlays_noteResize
      · rfl
    case h_5 =>
      split
      · exact .drags rfl rfl rfl rfl rfl rfl
      · exact .drags rfl rfl rfl rfl (ColumnResizing.overlays_autosize _ _) rfl
    case h_6 =>
      split
      · exact .ends rfl rfl (Model.overlays_setColumnWidth _ _ _) rfl
      · exact .drags rfl rfl rfl rfl rfl rfl
    case h_7 hup _ _ => exact .drags rfl (Input.isRelease_eq_false hup) rfl rfl rfl rfl

theorem gestures_rowSelection (s : RowSelection) (h : input.isPress = false ∨ s.dragging = false) :
  Gestures (.rowSelection s) input t ((BuiltIn.rowSelection s).handle input t)
  := by
  obtain ⟨anchor, _ | _⟩ := s
  case false =>
    simp only [handle, RowSelection.handle]
    split
    case h_1 =>
      split
      · apply Gestures.idle rfl
      · exact .grabs rfl rfl rfl rfl rfl (.inl rfl)
    all_goals apply Gestures.idle rfl
  case true =>
    simp only [handle, RowSelection.handle]
    split
    case h_1 => simp [Input.isPress] at h
    case h_2 e =>
      rw [Bool.not_true, if_neg Bool.false_ne_true]
      split
      · split
        · exact .drags rfl rfl rfl rfl rfl rfl
        · exact .drags rfl rfl rfl rfl rfl rfl
      · exact .drags rfl rfl rfl rfl rfl rfl
    case h_3 => exact .ends rfl rfl rfl rfl
    case h_4 hup => exact .drags rfl (Input.isRelease_eq_false hup) rfl rfl rfl rfl

theorem gestures_columnSelection (s : ColumnSelection) :
  Gestures (.columnSelection s) input t ((BuiltIn.columnSelection s).handle input t)
  := by
  simp only [handle, ColumnSelection.handle]
  split
  case h_1 =>
    split
    · apply Gestures.idle rfl
    · exact .rests rfl rfl (Model.overlays_selectIfNew _ _) rfl fun _ => rfl
  case h_2 =>
    split
    · apply Gestures.idle rfl
    · split
      · split
        · exact .takes rfl rfl rfl rfl rfl
        · exact .takes rfl rfl rfl rfl rfl
      · exact .takes rfl rfl rfl rfl rfl
  case h_3 => exact .rests rfl rfl rfl rfl fun _ => rfl
  case h_4 => apply Gestures.idle rfl

theorem gestures_columnMoving (s : ColumnMoving α)
    (h : input.isPress = false ∨ s.drag?.isSome = false) :
  Gestures (.columnMoving s) input t ((BuiltIn.columnMoving s).handle input t)
  := by
  cases hd : s.drag? with
  | none =>
    obtain rfl := ColumnMoving.eq_idle (congrArg Option.isSome hd)
    simp only [handle, ColumnMoving.handle]
    split
    case h_1 =>
      split
      · apply Gestures.idle rfl
      · exact .grabs rfl rfl rfl rfl rfl (.inr rfl)
    case h_4 =>
      rw [ColumnMoving.drag?, Option.isSome_none, Bool.and_false]
      apply Gestures.idle rfl
    all_goals apply Gestures.idle rfl
  | some d =>
    have hdragging : (BuiltIn.columnMoving s).isDragging = true := by
      rw [isDragging, hd]
      rfl
    simp only [handle, ColumnMoving.handle]
    split
    case h_1 => simp [Input.isPress, hd] at h
    case h_2 e =>
      rw [hd]
      exact .drags hdragging rfl rfl rfl (ColumnMoving.overlays_follow d e t)
        (ColumnMoving.request_follow d e t)
    case h_3 =>
      cases s with
      | idle => cases hd
      | armed d => exact .ends rfl rfl rfl rfl
      | dragging d => exact .ends rfl rfl (ColumnMoving.overlays_drop _ _) rfl
    case h_4 =>
      split
      · exact .ends hdragging rfl rfl rfl
      · exact .drags hdragging rfl hdragging rfl rfl rfl
    case h_5 _ _ hup _ =>
      exact .drags hdragging (Input.isRelease_eq_false hup) hdragging rfl rfl rfl

theorem gestures_cellSelection (s : CellSelection α)
    (h : input.isPress = false ∨ s.dragging = false) :
  Gestures (.cellSelection s) input t ((BuiltIn.cellSelection s).handle input t)
  := by
  obtain ⟨anchor, focus, _ | _, pointer, scroll⟩ := s
  case false =>
    simp only [handle, CellSelection.handle]
    split
    case h_1 e =>
      split
      · apply Gestures.idle rfl
      · next cell _ =>
        obtain ⟨hdragging, hoverlays⟩ :=
          CellSelection.press_keeps ⟨anchor, focus, false, pointer, scroll⟩ e cell t.model
        exact .grabs rfl rfl rfl hdragging hoverlays (.inl rfl)
    case h_3 => exact .rests rfl rfl rfl rfl fun _ => rfl
    case h_4 =>
      split
      · apply Gestures.idle rfl
      · next s' m' hkey =>
        obtain ⟨hdragging, hoverlays⟩ := CellSelection.of_key? hkey
        refine .takes rfl rfl (Bool.eq_false_iff.mpr ?_) hoverlays rfl
        intro hs'
        cases hdragging hs'
    all_goals apply Gestures.idle rfl
  case true =>
    simp only [handle, CellSelection.handle]
    split
    case h_1 => simp [Input.isPress] at h
    case h_2 e =>
      rw [Bool.not_true, if_neg Bool.false_ne_true]
      obtain ⟨hdragging, hoverlays, hrequest⟩ := CellSelection.dragScroll_keeps
        ⟨anchor, focus, true, some e.point, scroll⟩ e.point t
      generalize CellSelection.dragScroll ⟨anchor, focus, true, some e.point, scroll⟩ e.point t = r
        at hdragging hoverlays hrequest ⊢
      obtain ⟨hdragging', hoverlays'⟩ := r.1.extendTo?_keeps r.2.model
        ((e.cell?.bind CellSelection.placeOf?).or (CellSelection.nearestCell? r.2.model e.point))
      exact .drags rfl rfl (hdragging'.trans hdragging) rfl (hoverlays'.trans hoverlays) hrequest
    case h_3 => exact .ends rfl rfl rfl rfl
    case h_4 =>
      split
      · exact .drags rfl rfl rfl rfl rfl rfl
      · next s' m' hkey =>
        obtain ⟨-, hoverlays⟩ := CellSelection.of_key? hkey
        cases hs' : s'.dragging with
        | true => exact .drags rfl rfl hs' rfl hoverlays rfl
        | false => exact .ends rfl hs' hoverlays rfl
    case h_5 _ _ hup _ => exact .drags rfl (Input.isRelease_eq_false hup) rfl rfl rfl rfl

theorem gestures_keyPaging :
  Gestures .keyPaging input t (BuiltIn.keyPaging.handle input t)
  := by
  simp only [handle, KeyPaging.handle]
  split
  case h_1 =>
    split
    case h_1 m hm =>
      refine .takes rfl rfl rfl ?_ rfl
      split at hm
      · apply (KeyPaging.scrolls_of_pageColumns? hm).overlays_eq
      · apply (KeyPaging.scrolls_of_pageRows? hm).overlays_eq
    case h_2 => apply Gestures.idle rfl
  case h_2 => apply Gestures.idle rfl

theorem gestures_contextMenu (s : ContextMenu) :
  Gestures (.contextMenu s) input t ((BuiltIn.contextMenu s).handle input t)
  := by
  simp only [handle, ContextMenu.handle]
  split
  case h_1 =>
    split
    · exact .takes rfl rfl rfl rfl rfl
    · exact .rests rfl rfl rfl rfl fun _ => rfl
  case h_2 =>
    split
    · exact .takes rfl rfl rfl rfl rfl
    · split
      · exact .takes rfl rfl rfl rfl rfl
      · exact .rests rfl rfl rfl rfl fun _ => rfl
  case h_3 => apply Gestures.idle rfl

/-- A feature that is not pressed while it drags keeps to its gesture. -/
theorem gestures_handle (f : BuiltIn α) (input : Input α) (t : GridTurn α σ)
    (h : input.isPress = false ∨ f.isDragging = false) :
  Gestures f input t (f.handle input t)
  := by
  cases f with
  | hover =>
    simp only [handle, Hover.handle]
    split
    all_goals exact .rests rfl rfl rfl rfl fun _ => rfl
  | columnFixation s => apply gestures_columnFixation s h
  | rowFixation s => apply gestures_rowFixation s h
  | columnResizing s => apply gestures_columnResizing s h
  | rowSelection s => apply gestures_rowSelection s h
  | columnSelection s => apply gestures_columnSelection s
  | columnMoving s => apply gestures_columnMoving s h
  | cellSelection s => apply gestures_cellSelection s h
  | keyPaging => apply gestures_keyPaging
  | contextMenu s => apply gestures_contextMenu s

/-- A timer neither begins nor ends a drag, and what is drawn for the drag is all that it may
change of what is drawn. -/
theorem fire_keeps (f : BuiltIn α) (timer : TimerToken) (t : GridTurn α σ) :
  (f.fire timer t).feature.isDragging = f.isDragging
    ∧ (f.fire timer t).feature.undrawn = f.undrawn
    ∧ f.undrawn (f.fire timer t).turn.model.overlays = f.undrawn t.model.overlays
    ∧ (f.fire timer t).turn.request = t.request
  := by
  cases f with
  | columnMoving s =>
    simp only [fire, ColumnMoving.fire]
    split
    case h_1 d =>
      split
      · exact ⟨rfl, rfl, ColumnMoving.overlays_scrollStep _ _ _ _,
          ColumnMoving.request_scrollStep _ _ _ _⟩
      · exact ⟨rfl, rfl, rfl, rfl⟩
    case h_2 => exact ⟨rfl, rfl, rfl, rfl⟩
  | cellSelection s =>
    simp only [fire, CellSelection.fire]
    split
    case h_1 => exact ⟨rfl, rfl, rfl, rfl⟩
    case h_2 d _ =>
      obtain ⟨hdragging, hoverlays, hrequest⟩ := s.scrollStep_keeps d.columns d.rows t
      exact ⟨hdragging, rfl, hoverlays, hrequest⟩
  | _ => exact ⟨rfl, rfl, rfl, rfl⟩

end BuiltIn

end DataGrid
