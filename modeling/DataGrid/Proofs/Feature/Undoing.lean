import DataGrid.Proofs.Columns.Restore
import DataGrid.Proofs.Feature.Deeds
import DataGrid.Proofs.Feature.Requests

/-!
# What a drag can take back

Until it ends, a drag changes no more of the columns and the settings than one width, and the
feature that changes it knows what it was (`BuiltIn.putBack`, `BuiltIn.column?_putBack_handle`).
There is nothing to tell listeners about an arrangement (`Model.Spares`).
-/

namespace DataGrid

variable {α σ : Type}

/-- Whether a notice tells that columns or rows have been arranged: of a width, of the order, or of
how many are fixed. -/
def Notice.isArrangement : Notice α → Bool
  | .selectionChanged | .contextMenuRequested .. => false
  | _ => true

/-- Whether a deed may be done in the middle of a drag. -/
def Deed.isProvisional : Deed α → Bool
  | .resize .. => true
  | d => d.isHarmless

theorem Deed.isProvisional_of_isHarmless {d : Deed α} (h : d.isHarmless = true) :
  d.isProvisional = true
  := by
  cases d with
  | resize => rfl
  | _ => apply h

/-! ### Widths -/

namespace Columns

variable [Pixel α] {c c' : Columns α}

theorem column?_setWidth (c : Columns α) (id id' : ColumnId) (w : α) :
  (c.setWidth id w).column? id'
    = if id = id' then (c.column? id').map fun d => d.resize w else c.column? id'
  := column?_modify c id id' _

/-- Of two widths that a column is given the second one counts. -/
theorem column?_setWidth_setWidth (c : Columns α) (id id' : ColumnId) (w w' : α) :
  ((c.setWidth id w).setWidth id w').column? id' = (c.setWidth id w').column? id'
  := by
  simp only [column?_setWidth]
  split
  · rw [Option.map_map]
    rfl
  · rfl

/-- A column can be given the width that it has. -/
theorem setWidth_eq_self {id : ColumnId} {d : Column α} (hd : c.column? id = some d)
    (hlimits : d.IsWithinLimits) :
  c.setWidth id d.width = c
  := by
  apply modify_eq_self
  intro d' hd'
  obtain rfl := Option.some.inj (hd.symm.trans hd')
  apply restored_columnSnapshot hlimits rfl rfl

theorem column?_setWidth_congr (h : ∀ id, c'.column? id = c.column? id) (id id' : ColumnId)
    (w : α) :
  (c'.setWidth id w).column? id' = (c.setWidth id w).column? id'
  := by
  rw [column?_setWidth, column?_setWidth, h]

end Columns

/-! ### What is spared -/

namespace Model

variable {m m' m'' : Model α σ}

/-- The order of the columns and the settings are spared, and there is nothing to tell about an
arrangement. -/
structure Spares (m m' : Model α σ) : Prop where
  shown_eq : m'.columns.shown = m.columns.shown
  config_eq : m'.config = m.config
  told : ∃ told, m'.takeNotices.1 = m.takeNotices.1 ++ told ∧ ∀ n ∈ told, n.isArrangement = false

namespace Spares

/-- Nothing has been told. -/
theorem of_eq (hshown : m'.columns.shown = m.columns.shown) (hconfig : m'.config = m.config)
    (hnotices : m'.takeNotices.1 = m.takeNotices.1) :
  m.Spares m'
  := by
  refine ⟨hshown, hconfig, [], ?_, ?_⟩
  · rw [hnotices, List.append_nil]
  · intro n hn
    cases hn

theorem trans (h : m.Spares m') (h' : m'.Spares m'') :
  m.Spares m''
  := by
  obtain ⟨told, htold, hnone⟩ := h.told
  obtain ⟨told', htold', hnone'⟩ := h'.told
  refine ⟨h'.shown_eq.trans h.shown_eq, h'.config_eq.trans h.config_eq, told ++ told', ?_, ?_⟩
  · rw [htold', htold, List.append_assoc]
  · intro n hn
    obtain hn | hn := List.mem_append.mp hn
    · apply hnone n hn
    · apply hnone' n hn

theorem emit (h : m.Spares m') {n : Notice α} (hn : n.isArrangement = false) :
  m.Spares (m'.emit n)
  := by
  apply h.trans
  refine ⟨rfl, rfl, [n], ?_, ?_⟩
  · apply (List.append_assoc _ _ _).symm
  · intro n' hn'
    obtain rfl := List.mem_singleton.mp hn'
    apply hn

end Spares

variable [Pixel α] [DataSource σ]

/-- A column that is not there cannot be given a width. -/
theorem columns_setColumnWidth (m : Model α σ) (id : ColumnId) (width : α) :
  (m.setColumnWidth id width).columns = m.columns.setWidth id width
  := by
  rw [setColumnWidth]
  cases h : m.columns.column? id with
  | some d => rfl
  | none =>
    apply (Columns.modify_eq_self _).symm
    intro d hd
    cases h.symm.trans hd

/-- A width is changed without a notice. -/
theorem takeNotices_setColumnWidth (m : Model α σ) (id : ColumnId) (width : α) :
  (m.setColumnWidth id width).takeNotices.1 = m.takeNotices.1
  := by
  have hnotices : (m.columns.setWidth id width).notices = m.columns.notices :=
    Columns.notices_modify _ _ _
  rw [setColumnWidth]
  split
  · change (m.columns.setWidth id width).notices ++ m.notices = _
    rw [hnotices]
    rfl
  · rfl

theorem spares_setColumnWidth (m : Model α σ) (id : ColumnId) (width : α) :
  m.Spares (m.setColumnWidth id width)
  := by
  apply Spares.of_eq _ _ (takeNotices_setColumnWidth m id width)
  · rw [columns_setColumnWidth]
    apply Columns.shown_modify
  · rw [setColumnWidth]
    split
    · rfl
    · rfl

theorem spares_act (m : Model α σ) {d : Deed α} (hd : d.isProvisional = true) :
  m.Spares (m.act d)
  := by
  cases d with
  | scroll left top => exact .of_eq rfl rfl rfl
  | draw o => exact .of_eq rfl rfl rfl
  | hover cell => exact .of_eq rfl rfl rfl
  | select s =>
    have hselected : m.Spares { m with selection := s } := .of_eq rfl rfl rfl
    exact hselected.emit rfl
  | resize id width => apply spares_setColumnWidth
  | noteResize | fixColumns | fixRows | move => cases hd
  | askForMenu point gridCell dataCell => exact Spares.emit (.of_eq rfl rfl rfl) rfl

/-- Deeds that may be done in the middle of a drag spare the order and the settings. -/
theorem Acts.spares {may : Deed α → Prop} (h : m.Acts may m')
    (hmay : ∀ d, may d → d.isProvisional = true) :
  m.Spares m'
  := by
  apply h.keeps (M := m.Spares) _ (Spares.of_eq rfl rfl rfl)
  intro m' d hd ih
  apply ih.trans (spares_act m' (hmay d hd))

/-- What leaves the columns alone leaves them as they are. -/
theorem Roams.columns_eq (h : m.Roams m') :
  m'.columns = m.columns
  := by
  apply h.keeps (M := fun m' => m'.columns = m.columns) _ rfl
  intro m' d hd ih
  cases d with
  | scroll | draw | hover | select | askForMenu => apply ih
  | resize | noteResize | fixColumns | fixRows | move => cases hd

theorem Roams.spares (h : m.Roams m') :
  m.Spares m'
  := by
  apply Acts.spares h
  intro d hd
  apply d.isProvisional_of_isHarmless hd

end Model

/-! ### Features that arrange -/

namespace BuiltIn

/-- What has been resized gets the width that it had before the drag. -/
def putBack [Pixel α] (f : BuiltIn α) (c : Columns α) : Columns α :=
  match f.resizeDrag? with
  | some d => c.setWidth d.column d.startWidth
  | none => c

/-- What is put back depends on the columns alone. -/
theorem column?_putBack_congr [Pixel α] (f : BuiltIn α) {c c' : Columns α}
    (h : ∀ id, c'.column? id = c.column? id) (id : ColumnId) :
  (f.putBack c').column? id = (f.putBack c).column? id
  := by
  rw [putBack, putBack]
  split
  · apply Columns.column?_setWidth_congr h
  · apply h

variable {f : BuiltIn α} {input : Input α}

theorem isArranging_eq_false (h : f.isDragging = false) :
  f.isArranging = false
  := by
  cases f with
  | columnFixation | rowFixation | columnResizing | columnMoving => apply h
  | _ => rfl

theorem resizeDrag?_eq_none (h : f.isArranging = false) :
  f.resizeDrag? = none
  := by
  cases f with
  | columnResizing s => apply Option.isNone_iff_eq_none.mp (Option.isSome_eq_false_iff.mp h)
  | _ => rfl

theorem resizeDrag?_of_name (h : f.name ≠ "column_resizing") :
  f.resizeDrag? = none
  := by
  cases f with
  | columnResizing s => cases h rfl
  | _ => rfl

theorem putBack_eq_self [Pixel α] (h : f.resizeDrag? = none) (c : Columns α) :
  f.putBack c = c
  := by
  rw [putBack, h]

/-- A drag that arranges nothing draws nothing. -/
theorem undrawn_eq_self (hdragging : f.isDragging = true) (h : f.isArranging = false)
    (o : Overlays α) :
  f.undrawn o = o
  := by
  cases f with
  | columnFixation | rowFixation | columnResizing | columnMoving => cases h.symm.trans hdragging
  | _ => rfl

/-- Until a drag ends, a feature does no more to the columns and the settings than resize the column
whose edge is dragged. -/
theorem isHarmless_or_resizes {d : Deed α} (hd : f.May input d)
    (hrelease : input.isRelease = true → f.isArranging = false)
    (hdouble : input.isDoubleClick = false) :
  d.isHarmless = true ∨ ∃ drag width, f.resizeDrag? = some drag ∧ d = .resize drag.column width
  := by
  have hnot : ¬ (f.isArranging = true ∧ input.isRelease = true) := by
    rintro ⟨harranging, hup⟩
    cases (hrelease hup).symm.trans harranging
  cases d with
  | scroll | draw | hover | select | askForMenu => exact .inl rfl
  | fixColumns | fixRows | move => cases hnot hd
  | noteResize id before after =>
    obtain hd | hd := hd
    · cases hnot hd
    · cases hdouble.symm.trans hd
  | resize id width =>
    obtain ⟨drag, hdrag, rfl⟩ | hd := hd
    · exact .inr ⟨drag, width, hdrag, rfl⟩
    · cases hdouble.symm.trans hd

variable [Pixel α] [DataSource σ] {t : GridTurn α σ}

/-- Until a drag ends, nothing is arranged that cannot be taken back. -/
theorem spares_handle (hrelease : input.isRelease = true → f.isArranging = false)
    (hdouble : input.isDoubleClick = false) :
  t.model.Spares (f.handle input t).turn.model
  := by
  apply (f.acts_handle input t).spares
  intro d hd
  obtain hd | ⟨drag, width, -, rfl⟩ := isHarmless_or_resizes hd hrelease hdouble
  · apply Deed.isProvisional_of_isHarmless hd
  · rfl

/-- A feature that resizes nothing leaves the columns alone, unless a drag ends. -/
theorem roams_handle (hdrag : f.resizeDrag? = none)
    (hrelease : input.isRelease = true → f.isArranging = false)
    (hdouble : input.isDoubleClick = false) :
  t.model.Roams (f.handle input t).turn.model
  := by
  apply (f.acts_handle input t).mono
  intro d hd
  obtain hd | ⟨drag, width, hsome, -⟩ := isHarmless_or_resizes hd hrelease hdouble
  · apply hd
  · cases hdrag.symm.trans hsome

/-- While the edge of a column is dragged, it can be put back to where it was, and `Escape` puts it
back.  A press on an edge remembers where it is. -/
theorem column?_putBack_columnResizing (s : ColumnResizing α)
    (hpress : input.isPress = true → s.drag.isSome = false
      ∧ ∀ id c, t.model.columns.column? id = some c → c.IsWithinLimits)
    (hrelease : input.isRelease = true → s.drag.isSome = false)
    (hdouble : input.isDoubleClick = false) (id : ColumnId) :
  (putBack (.columnResizing (s.handle input t).state)
      (s.handle input t).turn.model.columns).column? id
    = (putBack (.columnResizing s) t.model.columns).column? id
  := by
  obtain ⟨drag, overDivider⟩ := s
  unfold ColumnResizing.handle
  split
  case h_1 => rfl
  case h_2 e =>
    obtain ⟨hrest, hlimits⟩ := hpress rfl
    obtain rfl : drag = none := by
      cases drag with
      | none => rfl
      | some d => cases hrest
    split
    · split
      · next column id' hcolumn hid =>
        rw [hid] at hcolumn
        have hsame := Columns.setWidth_eq_self hcolumn (hlimits _ _ hcolumn)
        change ((t.model.columns.setWidth id' column.width).column? id) = _
        rw [hsame]
        rfl
      · rfl
    · rfl
  case h_3 e =>
    cases drag with
    | none => rfl
    | some d =>
      change ((Model.setColumnWidth _ _ _).columns.setWidth d.column d.startWidth).column? id = _
      rw [Model.columns_setColumnWidth]
      apply Columns.column?_setWidth_setWidth
  case h_4 =>
    cases drag with
    | none => rfl
    | some d => cases hrelease rfl
  case h_5 => cases hdouble
  case h_6 e =>
    cases drag with
    | none => rfl
    | some d =>
      dsimp only
      split
      · change (Model.setColumnWidth _ _ _).columns.column? id = _
        rw [Model.columns_setColumnWidth]
        rfl
      · rfl
  case h_7 => rfl

/-- What a drag has resized can be put back all along. -/
theorem column?_putBack_handle
    (hpress : input.isPress = true → f.isDragging = false
      ∧ ∀ id c, t.model.columns.column? id = some c → c.IsWithinLimits)
    (hrelease : input.isRelease = true → f.isArranging = false)
    (hdouble : input.isDoubleClick = false) (id : ColumnId) :
  ((f.handle input t).feature.putBack (f.handle input t).turn.model.columns).column? id
    = (f.putBack t.model.columns).column? id
  := by
  by_cases hname : f.name = "column_resizing"
  · cases f with
    | columnResizing s => apply column?_putBack_columnResizing s hpress hrelease hdouble
    | _ => simp [name] at hname
  · have hdrag := resizeDrag?_of_name hname
    have hdrag' : (f.handle input t).feature.resizeDrag? = none := by
      apply resizeDrag?_of_name
      rw [name_handle]
      apply hname
    rw [putBack_eq_self hdrag', putBack_eq_self hdrag,
      (roams_handle hdrag hrelease hdouble).columns_eq]

theorem putBack_fire (f : BuiltIn α) (timer : TimerToken) (t : GridTurn α σ) :
  (f.fire timer t).feature.putBack (f.fire timer t).turn.model.columns
    = f.putBack t.model.columns
  := by
  have hcolumns := (f.roams_fire timer t).columns_eq
  cases f with
  | columnMoving s => apply hcolumns
  | cellSelection s => apply hcolumns
  | _ => rfl

/-! ### Features that arrange nothing -/

/-- What arranges nothing begins to do so only with a press. -/
theorem isArranging_handle (h : f.isArranging = false) (hpress : input.isPress = false) :
  (f.handle input t).feature.isArranging = false
    ∧ (f.handle input t).turn.model.overlays = t.model.overlays
  := by
  cases f.gestures_handle input t (.inl hpress) with
  | rests before after overlays => exact ⟨isArranging_eq_false after, overlays⟩
  | grabs press => cases hpress.symm.trans press
  | drags before release after undrawn overlays =>
    rw [undrawn_eq_self before h, undrawn_eq_self before h] at overlays
    refine ⟨?_, overlays⟩
    -- only selecting features drag without arranging anything
    cases f with
    | columnFixation | rowFixation | columnResizing | columnMoving => cases h.symm.trans before
    | _ => rfl
  | ends before after overlays =>
    rw [undrawn_eq_self before h] at overlays
    exact ⟨isArranging_eq_false after, overlays⟩

theorem isArranging_fire (h : f.isArranging = false) (timer : TimerToken) (t : GridTurn α σ) :
  (f.fire timer t).feature.isArranging = false
    ∧ (f.fire timer t).turn.model.overlays = t.model.overlays
  := by
  cases f with
  | columnMoving s =>
    obtain rfl := ColumnMoving.eq_idle h
    exact ⟨rfl, rfl⟩
  | cellSelection s => exact ⟨rfl, ((cellSelection s).fire_keeps timer t).2.2.1⟩
  | _ => exact ⟨h, rfl⟩

/-! ### Held columns -/

/-- Columns that are held go on being held when they are dragged. -/
theorem isSome_columnDrag?_drag (f : BuiltIn α) (e : PointerEvent α) (t : GridTurn α σ) :
  (f.handle (.pointer .drag e) t).feature.columnDrag?.isSome = f.columnDrag?.isSome
  := by
  cases f with
  | columnMoving s => cases s <;> rfl
  | _ => rfl

theorem isSome_columnDrag?_fire (f : BuiltIn α) (timer : TimerToken) (t : GridTurn α σ) :
  (f.fire timer t).feature.columnDrag?.isSome = f.columnDrag?.isSome
  := by
  cases f with
  | columnMoving s => apply ((columnMoving s).fire_keeps timer t).1
  | _ => rfl

/-! ### Escape -/

/-- After `Escape` no feature arranges anything. -/
theorem isArranging_escape (f : BuiltIn α) {e : KeyEvent} (he : e.key = "Escape")
    (t : GridTurn α σ) :
  (f.handle (.key .down e) t).feature.isArranging = false
  := by
  cases f with
  | columnFixation s =>
    obtain ⟨_ | count, overHandle⟩ := s
    · simp [handle, ColumnFixation.handle, reply, Step.pass, isArranging]
    · simp [handle, ColumnFixation.handle, he, reply, Step.stop, isArranging]
  | rowFixation s =>
    obtain ⟨_ | count, overHandle⟩ := s
    · simp [handle, RowFixation.handle, reply, Step.pass, isArranging]
    · simp [handle, RowFixation.handle, he, reply, Step.stop, isArranging]
  | columnResizing s =>
    obtain ⟨_ | d, overDivider⟩ := s
    · simp [handle, ColumnResizing.handle, reply, Step.pass, isArranging]
    · simp [handle, ColumnResizing.handle, he, reply, Step.stop, isArranging]
  | columnMoving s =>
    cases s with
    | idle => simp [handle, ColumnMoving.handle, reply, Step.pass, isArranging, ColumnMoving.drag?]
    | armed d | dragging d =>
      simp [handle, ColumnMoving.handle, he, reply, Step.stop, isArranging, ColumnMoving.drag?]
  | _ => rfl

/-- `Escape` is for a feature that drags, or else for the one that selects cells. -/
theorem result_escape (hrest : f.isDragging = false) (hname : f.name ≠ "cell_selection")
    {e : KeyEvent} (he : e.key = "Escape") (t : GridTurn α σ) :
  (f.handle (.key .down e) t).result = .ok .pass
  := by
  obtain ⟨key, modifiers⟩ := e
  subst he
  cases isAtRest_of_isDragging hrest with
  | cellSelection => cases hname rfl
  | keyPaging => simp [handle, KeyPaging.handle, KeyPaging.pageColumns?, KeyPaging.pageRows?, reply,
      Step.pass]
  | columnFixation => simp [handle, ColumnFixation.handle, reply, Step.pass]
  | rowFixation => simp [handle, RowFixation.handle, reply, Step.pass]
  | columnMoving => simp [handle, ColumnMoving.handle, ColumnMoving.drag?, reply, Step.pass]
  | _ => rfl

/-- The feature that holds columns lets go of them at once. -/
theorem handle_escape_of_held {s : ColumnMoving α} {d : ColumnDrag α} (hd : s.drag? = some d)
    {e : KeyEvent} (he : e.key = "Escape") (t : GridTurn α σ) :
  (BuiltIn.columnMoving s).handle (.key .down e) t
    = ⟨.ok .stop, .columnMoving .idle, (t.modify ColumnMoving.clearOverlays).reattachNow⟩
  := by
  simp [handle, ColumnMoving.handle, he, hd, reply, Step.stop]

end BuiltIn

end DataGrid
