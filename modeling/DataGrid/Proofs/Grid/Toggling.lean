import DataGrid.Proofs.Grid.Standard
import DataGrid.Proofs.Selection.Toggling

/-!
# Toggling a row or a column

With control, a press on a row handle takes the row in or out of the selection, and a press on a
header takes the column in or out if columns cannot be moved.  A drag that stays in the cell is to
change nothing more.  But a feature that is being dragged reaches from the row or column that was
pressed to the one under the pointer, also after a press that took it out; so such a drag selects it
again (`Grid.toggles_iff`).
-/

namespace DataGrid

variable {α σ : Type}

/-- The pointer is on the cell in a column and a row of the screen. -/
def PointerEvent.IsOn (e : PointerEvent α) (column : PlacedColumn α) (row : PlacedRow α) : Prop :=
  ∃ c, e.cell? = some c ∧ c.cell.column = column ∧ c.cell.row = row

/-- A press that adds to the selection or takes from it is not a plain one. -/
theorem PointerEvent.isPlainPress_of_toggle {e : PointerEvent α}
    (h : e.modifiers.toggle = true) :
  e.isPlainPress = false
  := by
  have hany : e.modifiers.any = true := by
    rw [Modifiers.toggle, Bool.or_eq_true] at h
    obtain h | h := h <;> simp [Modifiers.any, h]
  rw [isPlainPress, hany, Bool.not_true, Bool.and_false]

namespace BuiltIn

variable [Pixel α] [DataSource σ]

/-- How a feature that has been pressed on a cell goes on: a drag in the cell changes the selection
by `reach`, and a release leaves the model as it is. -/
structure Drags (σ : Type) [DataSource σ] (column : PlacedColumn α) (row : PlacedRow α)
    (f : BuiltIn α) (reach : Selection → Selection) : Prop where
  drag : ∀ (e : PointerEvent α) (t : GridTurn α σ), e.IsOn column row →
    ∃ m', f.handle (.pointer .drag e) t = ⟨.ok .stop, f, { t with model := m' }⟩
      ∧ m'.toFrame = t.model.toFrame ∧ m'.selection = reach t.model.selection
  up : ∀ (e : PointerEvent α) (t : GridTurn α σ),
    ∃ flow f', f.handle (.pointer .up e) t = ⟨.ok flow, f', t⟩

/-- A feature takes a press by making another selection. -/
structure Presses (f : BuiltIn α) (e : PointerEvent α) (t : GridTurn α σ) (f' : BuiltIn α)
    (s : Selection) : Prop where
  down : ∃ flow m', f.handle (.pointer .down e) t = ⟨.ok flow, f', { t with model := m' }⟩
    ∧ m'.toFrame = t.model.toFrame ∧ m'.selection = s

/-! ### Rows -/

section Rows

variable {column : PlacedColumn α} {row : PlacedRow α}

/-- After a press on a row handle, drags in the same cell reach for that row. -/
theorem drags_rowSelection (hrow : row.band = .data) :
  Drags σ column row (.rowSelection ⟨some row.row, true⟩)
    (Selection.reached (.rows row.row row.row) (·.extendLast (.rows row.row row.row)))
  := by
  constructor
  case drag =>
    rintro e t ⟨c, hc, -, rfl⟩
    have hdata : c.cell.isDataRow = true := decide_eq_true hrow
    have hfilter : e.cell?.filter (·.cell.isDataRow) = some c := by
      rw [hc, Option.filter_some, if_pos hdata]
    simp only [handle, RowSelection.handle, hfilter, Selection.reached]
    change ∃ m', reply .rowSelection
        (if t.model.selection.last? .rows = _ then Step.stop _ t else Step.stop _ _) = _ ∧ _
    by_cases hlast : t.model.selection.last? .rows = some (.rows c.cell.row.row c.cell.row.row)
    · rw [if_pos hlast]
      exact ⟨t.model, rfl, rfl, (if_pos hlast).symm⟩
    · rw [if_neg hlast]
      exact ⟨_, rfl, rfl, (if_neg hlast).symm⟩
  case up =>
    intro e t
    exact ⟨.stop, _, rfl⟩

/-- A press with control on a row handle toggles the row. -/
theorem presses_rowSelection {s : RowSelection} {e : PointerEvent α} {t : GridTurn α σ}
    {c : PointedCell α} (hbutton : e.button = .primary) (hctrl : e.modifiers.toggle = true)
    (hshift : e.modifiers.shift = false) (hcell : e.cell? = some c)
    (hhandle : c.cell.isHandleCell = true) (hrows : t.model.config.rowSelection = true) :
  Presses (.rowSelection s) e t (.rowSelection ⟨some c.cell.row.row, true⟩)
    (t.model.selection.toggled (.row c.cell.row.row) (.rows c.cell.row.row c.cell.row.row)
      (t.model.selection.deselectRow c.cell.row.row))
  := by
  have hpressed : RowSelection.pressed? t.model e = some c.cell.row.row := by
    rw [RowSelection.pressed?, hbutton, hrows, hcell, Option.filter_some, if_pos hhandle]
    rfl
  have hpress : RowSelection.press t.model.selection s.anchor e.modifiers c.cell.row.row
      = (t.model.selection.toggled (.row c.cell.row.row) (.rows c.cell.row.row c.cell.row.row)
        (t.model.selection.deselectRow c.cell.row.row), some c.cell.row.row) := by
    cases hselected : t.model.selection.isRowSelected c.cell.row.row <;>
      simp only [RowSelection.press, hshift, hctrl, Selection.toggled, Selection.selects,
        hselected] <;> rfl
  constructor
  simp only [handle, RowSelection.handle, hpressed, hpress]
  exact ⟨.stop, _, rfl, rfl, rfl⟩

end Rows

/-! ### Columns -/

section Columns

variable {column : PlacedColumn α} {row : PlacedRow α} {i : Nat}

/-- After a press on a header, drags in the same cell reach for that column. -/
theorem drags_columnSelection (hslot : column.slot.shownIndex? = some i) :
  Drags σ column row (.columnSelection ⟨some i, true⟩)
    (Selection.reached (.columns i i) (·.selectColumns i i))
  := by
  constructor
  case drag =>
    rintro e t ⟨c, hc, rfl, -⟩
    have hindex : e.shownIndex? = some i := by
      rw [PointerEvent.shownIndex?, hc]
      apply hslot
    simp only [handle, ColumnSelection.handle, hindex, Selection.reached]
    change ∃ m', reply .columnSelection
        (if t.model.selection.last? .columns = _ then Step.stop _ t else Step.stop _ _) = _ ∧ _
    by_cases hlast : t.model.selection.last? .columns = some (.columns i i)
    · rw [if_pos hlast]
      exact ⟨t.model, rfl, rfl, (if_pos hlast).symm⟩
    · rw [if_neg hlast]
      exact ⟨_, rfl, rfl, (if_neg hlast).symm⟩
  case up =>
    intro e t
    exact ⟨.pass, _, rfl⟩

/-- A press with control on a header toggles the column. -/
theorem presses_columnSelection {s : ColumnSelection} {e : PointerEvent α} {t : GridTurn α σ}
    {c : PointedCell α} (hbutton : e.button = .primary) (hctrl : e.modifiers.toggle = true)
    (hshift : e.modifiers.shift = false) (hcell : e.cell? = some c)
    (hheader : c.cell.isHeaderCell = true) (hindex : c.cell.shownIndex? = some i)
    (hfixed : t.model.config.columnsReorderable = false) :
  Presses (.columnSelection s) e t (.columnSelection ⟨some i, true⟩)
    (t.model.selection.toggled (.column i) (.columns i i) (t.model.selection.deselectColumn i))
  := by
  have hpressed : ColumnSelection.pressed? e = some i := by
    rw [ColumnSelection.pressed?, if_pos hbutton, hcell, Option.filter_some, if_pos hheader]
    apply hindex
  have hpress : ColumnSelection.press t.model.selection s.anchor e.modifiers i
      = (t.model.selection.toggled (.column i) (.columns i i)
        (t.model.selection.deselectColumn i), some i) := by
    cases hselected : t.model.selection.isColumnSelected i <;>
      simp only [ColumnSelection.press, hshift, hctrl, Selection.toggled, Selection.selects,
        hselected] <;> rfl
  constructor
  simp only [handle, ColumnSelection.handle, hpressed, hpress, hfixed]
  exact ⟨.pass, _, rfl, Model.toFrame_selectIfNew _ _, Model.selection_selectIfNew _ _⟩

end Columns

end BuiltIn

theorem ColumnResizing.divider?_congr [Pixel α] [DataSource σ] {m m' : Model α σ}
    (h : m'.toFrame = m.toFrame) (e : PointerEvent α) :
  divider? m' e = divider? m e
  := by
  unfold divider? edgeColumn?
  rw [h]

namespace Grid

variable [Pixel α] [DataSource σ] {g g₀ : Grid α σ (BuiltIn α)} {k : Nat} {f f' : BuiltIn α}
  {s : Selection} {reach : Selection → Selection} {hit : Hit α}

/-- A point is on the cell that was hit before. -/
def IsOnCell (g : Grid α σ (BuiltIn α)) (hit : Hit α) (point : Point α) : Prop :=
  ∃ hit', g.model.toFrame.cellAt? point = some hit' ∧ hit'.column = hit.column
    ∧ hit'.row = hit.row

theorem IsOnCell.isOn {point : Point α} (h : g.IsOnCell hit point) (button : Button)
    (modifiers : Modifiers) :
  (g.pointerEvent point button modifiers).IsOn hit.column hit.row
  := by
  obtain ⟨hit', hhit, hcolumn, hrow⟩ := h
  have hcell : (g.pointerEvent point button modifiers).cell?
      = (some hit').map fun hit =>
        let b := Binding.ofPlaced g.model.scene hit.column hit.row
        ⟨b, hit.offset, b.isColumnFixed g.model.scene, b.isRowFixed g.model.scene⟩ := by
    rw [pointerEvent, Model.cellAt?, hhit]
  exact ⟨_, hcell, hcolumn, hrow⟩

/-- After a press on `g₀` one feature leads; nothing has moved on the screen. -/
structure IsToggling (g₀ : Grid α σ (BuiltIn α)) (k : Nat) (f : BuiltIn α) (s : Selection)
    (g : Grid α σ (BuiltIn α)) : Prop where
  led : g.pipeline.IsLedBy k f
  frame_eq : g.model.toFrame.silent = g₀.model.toFrame.silent
  selection_eq : g.model.selection = s

/-- A press that one feature takes by making another selection. -/
theorem isToggling_press (hled : g.pipeline.IsLedBy k f) {point : Point α} {button : Button}
    {modifiers : Modifiers}
    (hpress : f.Presses (g.pointerEvent point button modifiers) (g.pipeline.turn g.model k g.now)
      f' s)
    (hothers : ∀ m' : Model α σ, m'.toFrame = g.model.toFrame → ∀ {h : BuiltIn α},
      h.name ≠ f.name →
      BuiltIn.takesPress m' (g.pointerEvent point button modifiers) h = false) :
  g.IsToggling k f' s (g.perform (.pointer .down point button modifiers)).grid
  := by
  obtain ⟨flow, m', hdown, hframe, hselection⟩ := hpress.down
  have hfor := Pipeline.isFor_down (m := g.model) (e := g.pointerEvent point button modifiers)
    g.now hled.names hled.own hled.attached (hothers g.model rfl)
  rw [hdown] at hfor
  obtain ⟨hled', hmodel⟩ := perform_pointer_of_eq
    (hled.dispatch (hfor (fun _ => hothers m' hframe) rfl) Pipeline.IsLedBy.rest_afterPress)
  constructor
  case led => apply hled'
  case frame_eq =>
    rw [Model.silent_eq_of_still_eq hmodel]
    apply congrArg Frame.silent hframe
  case selection_eq => apply (Model.selection_eq_of_still_eq hmodel).trans hselection

namespace IsToggling

/-- A drag in the cell that was pressed. -/
theorem perform_drag (h : g₀.IsToggling k f s g) (hf : f.Drags σ hit.column hit.row reach)
    {point : Point α} (hpoint : g₀.IsOnCell hit point) (button : Button) (modifiers : Modifiers) :
  g₀.IsToggling k f (reach s) (g.perform (.pointer .drag point button modifiers)).grid
  := by
  have hpoint' : g.IsOnCell hit point := by
    obtain ⟨hit', hhit, hsame⟩ := hpoint
    have hcell : g.model.toFrame.silent.cellAt? point = g₀.model.toFrame.silent.cellAt? point := by
      rw [h.frame_eq]
    exact ⟨hit', hcell.trans hhit, hsame⟩
  obtain ⟨m', hdrag, hframe, hselection⟩ := hf.drag (g.pointerEvent point button modifiers)
    (g.pipeline.turn g.model k g.now) (hpoint'.isOn button modifiers)
  have hfor := h.led.isFor_drag g.model g.now (g.pointerEvent point button modifiers)
  rw [hdrag] at hfor
  obtain ⟨hled, hmodel⟩ := perform_pointer_of_eq (h.led.dispatch (hfor rfl) id)
  constructor
  case led => apply hled
  case frame_eq =>
    rw [Model.silent_eq_of_still_eq hmodel]
    apply (congrArg Frame.silent hframe).trans h.frame_eq
  case selection_eq =>
    rw [Model.selection_eq_of_still_eq hmodel]
    apply hselection.trans (congrArg reach h.selection_eq)

/-- Any number of drags in the cell that was pressed: those after the first one change nothing. -/
theorem run_drags (h : g₀.IsToggling k f s g) (hf : f.Drags σ hit.column hit.row reach)
    (hreach : ∀ s, reach (reach s) = reach s) {drags : List (Point α × Button × Modifiers)}
    (hdrags : ∀ d ∈ drags, g₀.IsOnCell hit d.1) :
  g₀.IsToggling k f (if drags = [] then s else reach s)
    (g.run (drags.map fun d => .pointer .drag d.1 d.2.1 d.2.2))
  := by
  induction drags generalizing g s with
  | nil => apply h
  | cons d rest ih =>
    have hrest := ih (h.perform_drag hf (hdrags d List.mem_cons_self) d.2.1 d.2.2)
      fun d' hd' => hdrags d' (List.mem_cons_of_mem d hd')
    rw [hreach, ite_self] at hrest
    apply hrest

theorem selection_up (h : g₀.IsToggling k f s g) (hf : f.Drags σ hit.column hit.row reach)
    (point : Point α) (button : Button) (modifiers : Modifiers) :
  (g.perform (.pointer .up point button modifiers)).grid.model.selection = s
  := by
  obtain ⟨flow, f', hup⟩ := hf.up (g.pointerEvent point button modifiers)
    (g.pipeline.turn g.model k g.now)
  have hfor := h.led.isFor_up g.model g.now (g.pointerEvent point button modifiers)
  rw [hup] at hfor
  obtain ⟨-, hmodel⟩ := perform_pointer_of_eq
    (h.led.dispatch (hfor rfl) Pipeline.IsLedBy.rest_afterRelease)
  apply (Model.selection_eq_of_still_eq hmodel).trans h.selection_eq

end IsToggling

/-- A press with control on a row handle, followed by drags in that cell and a release, takes the
row in or out and changes nothing else exactly if the row was not selected before or there are no
drags.  The same holds for a press on a header, away from the edges of columns, and the column if
columns cannot be moved. -/
theorem toggles_iff (hg : g.IsStandard)
    (hrest : ∀ f ∈ g.pipeline.features, f.isDragging = false ∧ f.isExtending = false)
    {modifiers : Modifiers} (hctrl : modifiers.toggle = true) (hshift : modifiers.shift = false)
    {point : Point α} (hhit : g.model.toFrame.cellAt? point = some hit)
    {drags : List (Point α × Button × Modifiers)} (hdrags : ∀ d ∈ drags, g.IsOnCell hit d.1)
    (point' : Point α) (button' : Button) (modifiers' : Modifiers) :
  let b := Binding.ofPlaced g.model.scene hit.column hit.row
  let pressed := (g.perform (.pointer .down point .primary modifiers)).grid
  let dragged := pressed.run (drags.map fun d => .pointer .drag d.1 d.2.1 d.2.2)
  let released := (dragged.perform (.pointer .up point' button' modifiers')).grid
  (b.isHandleCell = true → g.model.config.rowSelection = true →
    (g.model.selection.Toggles (.row b.row.row) released.model.selection
      ↔ g.model.selection.isRowSelected b.row.row = false ∨ drags = []))
    ∧ ∀ i, b.isHeaderCell = true → b.shownIndex? = some i →
      ColumnResizing.divider? g.model (g.pointerEvent point .primary modifiers) = none →
      g.model.config.columnsReorderable = false →
      (g.model.selection.Toggles (.column i) released.model.selection
        ↔ g.model.selection.isColumnSelected i = false ∨ drags = [])
  := by
  intro b pressed dragged released
  have hcell : (g.pointerEvent point .primary modifiers).cell?
      = some ⟨b, hit.offset, b.isColumnFixed g.model.scene, b.isRowFixed g.model.scene⟩ := by
    rw [pointerEvent, Model.cellAt?, hhit]
    rfl
  have hplain : (g.pointerEvent point .primary modifiers).isPlainPress = false :=
    PointerEvent.isPlainPress_of_toggle hctrl
  have led {k : Nat} {f : BuiltIn α} (hf : g.pipeline.features[k]? = some f)
      (hk : k ≤ movingIndex) : g.pipeline.IsLedBy k f :=
    ⟨hg.names, hf, hg.lt_attachedCount hk,
      fun {i h} _ hh => hrest h (List.mem_of_getElem? hh)⟩
  constructor
  · intro hhandle hrows
    obtain ⟨s, hs⟩ := Pipeline.exists_rowSelection hg.names
    have hband : hit.row.band = .data := of_decide_eq_true (Bool.and_eq_true_iff.mp hhandle).1
    have hpressed := isToggling_press (led hs (by decide))
      (BuiltIn.presses_rowSelection rfl hctrl hshift hcell hhandle hrows)
      fun m' _ {h} hname => BuiltIn.takesPress_of_isHandleCell rfl hplain hcell hhandle hname
    have hdrags' := hpressed.run_drags (BuiltIn.drags_rowSelection hband)
      (Selection.reached_reached fun s => s.last?_extendLast _) hdrags
    have hselection := hdrags'.selection_up (BuiltIn.drags_rowSelection hband) point' button'
      modifiers'
    change released.model.selection = _ at hselection
    rw [hselection]
    apply Selection.toggles_ite_reached_iff (Range.covers_rows_self _)
      (Selection.selects_deselectRow _ _) fun s => s.last?_extendLast _
  · intro i hheader hindex hdivider hfixed
    obtain ⟨s, hs⟩ := Pipeline.exists_columnSelection hg.names
    have hmoving (m' : Model α σ) (hm' : m'.toFrame = g.model.toFrame) :
        ColumnMoving.pressed? m' (g.pointerEvent point .primary modifiers) = none := by
      rw [ColumnMoving.pressed?, hplain]
      rfl
    have hpressed := isToggling_press (led hs (by decide))
      (BuiltIn.presses_columnSelection rfl hctrl hshift hcell hheader hindex hfixed)
      fun m' hm' {h} hname => BuiltIn.takesPress_of_isHeaderCell rfl (by rw [hplain]; rfl)
        ((ColumnResizing.divider?_congr hm' _).trans hdivider) hcell hheader hname
        (.inr (hmoving m' hm'))
    have hdrags' := hpressed.run_drags (BuiltIn.drags_columnSelection hindex)
      (Selection.reached_reached fun s => s.last?_selectColumns _ _) hdrags
    have hselection := hdrags'.selection_up (BuiltIn.drags_columnSelection hindex) point' button'
      modifiers'
    change released.model.selection = _ at hselection
    rw [hselection]
    apply Selection.toggles_ite_reached_iff (Range.covers_columns_self _)
      (Selection.selects_deselectColumn _ _) fun s => s.last?_selectColumns _ _

/-- Two rows of three are selected, and the first one is pressed with control once more and dragged
by a pixel. -/
theorem toggles_iff_twice :
  let g₀ : Grid Rat Table (BuiltIn Rat) :=
    ofPipeline (Table.generate 3 3 fun x y => .text (toString (x + y)))
      (ColumnSchema.ofNames ["a", "b", "c"]) Config.default (.ofFeatures BuiltIn.all)
  let ctrl : Modifiers := { Modifiers.none with ctrl := true }
  let g := g₀.run [.pointer .down ⟨20, 30⟩ .primary ctrl, .pointer .up ⟨20, 30⟩ .primary ctrl,
    .pointer .down ⟨20, 50⟩ .primary ctrl, .pointer .up ⟨20, 50⟩ .primary ctrl]
  let hit : Hit Rat := ⟨⟨0, .rowHandle, .rowHandle, 0, 40⟩, ⟨1, 0, .data, 24, 20⟩, ⟨20, 6⟩⟩
  let drags : List (Point Rat × Button × Modifiers) := [(⟨21, 30⟩, .primary, ctrl)]
  let b := Binding.ofPlaced g.model.scene hit.column hit.row
  let pressed := (g.perform (.pointer .down ⟨20, 30⟩ .primary ctrl)).grid
  let dragged := pressed.run (drags.map fun d => .pointer .drag d.1 d.2.1 d.2.2)
  let released := (dragged.perform (.pointer .up ⟨21, 30⟩ .primary ctrl)).grid
  g.IsStandard ∧ (∀ f ∈ g.pipeline.features, f.isDragging = false ∧ f.isExtending = false)
    ∧ ctrl.toggle = true ∧ ctrl.shift = false
    ∧ g.model.toFrame.cellAt? ⟨20, 30⟩ = some hit ∧ (∀ d ∈ drags, g.IsOnCell hit d.1)
    ∧ b.isHandleCell = true ∧ g.model.config.rowSelection = true ∧ b.row.row = 0
    ∧ (g.model.selection.Toggles (.row b.row.row) released.model.selection
      ↔ g.model.selection.isRowSelected b.row.row = false ∨ drags = [])
  := by
  intro g₀ ctrl g hit drags b pressed dragged released
  have hg : g.IsStandard :=
    .perform _ (.perform _ (.perform _ (.perform _
      (.new _ _ _ Pipeline.ofNames_defaultFeatures))))
  have hg' : (g.pipeline.features.all fun f => !f.isDragging && !f.isExtending,
      g.model.toFrame.cellAt? ⟨20, 30⟩, g.model.toFrame.cellAt? ⟨21, 30⟩,
      g.model.config.rowSelection)
      = (true, some hit, some { hit with offset := ⟨21, 6⟩ }, true) := by
    simp only [g, g₀, ctrl, hit]
    cbv
  simp only [Prod.mk.injEq] at hg'
  obtain ⟨hall, hhit, hhit', hrows⟩ := hg'
  have hrest : ∀ f ∈ g.pipeline.features, f.isDragging = false ∧ f.isExtending = false := by
    simpa using hall
  have hdrags : ∀ d ∈ drags, g.IsOnCell hit d.1 := by
    intro d hd
    obtain rfl := List.mem_singleton.mp hd
    exact ⟨{ hit with offset := ⟨21, 6⟩ }, hhit', rfl, rfl⟩
  have hhandle : b.isHandleCell = true := rfl
  have htoggle : ctrl.toggle = true := rfl
  obtain ⟨htoggles, -⟩ := toggles_iff hg hrest htoggle rfl hhit hdrags ⟨21, 30⟩ .primary ctrl
  refine ⟨hg, hrest, rfl, rfl, hhit, hdrags, hhandle, hrows, rfl, ?_⟩
  simp only [b, released, dragged, pressed]
  exact htoggles hhandle hrows

/-- Two rows are selected.  A press with control on the first one, a drag by a pixel and a release
leave it selected, and the second one is no longer selected. -/
theorem toggled_back :
  let g₀ : Grid Rat Table (BuiltIn Rat) :=
    ofPipeline (Table.generate 3 3 fun x y => .text (toString (x + y)))
      (ColumnSchema.ofNames ["a", "b", "c"]) Config.default (.ofFeatures BuiltIn.all)
  let ctrl : Modifiers := { Modifiers.none with ctrl := true }
  let g := g₀.run [.pointer .down ⟨20, 30⟩ .primary ctrl, .pointer .up ⟨20, 30⟩ .primary ctrl,
    .pointer .down ⟨20, 50⟩ .primary ctrl, .pointer .up ⟨20, 50⟩ .primary ctrl]
  let released := g.run [.pointer .down ⟨20, 30⟩ .primary ctrl,
    .pointer .drag ⟨21, 30⟩ .primary ctrl, .pointer .up ⟨21, 30⟩ .primary ctrl]
  (∀ f ∈ g.pipeline.features, f.isDragging = false ∧ f.isExtending = false)
    ∧ g.model.selection = ⟨[.rows 0 0, .rows 1 1]⟩
    ∧ released.model.selection = ⟨[.rows 0 0]⟩
    ∧ ¬ g.model.selection.Toggles (.row 0) released.model.selection
  := by
  intro g₀ ctrl g released
  have hrun : (g.pipeline.features.all fun f => !f.isDragging && !f.isExtending,
      g.model.selection, released.model.selection)
      = (true, ⟨[.rows 0 0, .rows 1 1]⟩, ⟨[.rows 0 0]⟩) := by
    simp only [released, g, g₀, ctrl]
    cbv
  simp only [Prod.mk.injEq] at hrun
  obtain ⟨hrest, hbefore, hafter⟩ := hrun
  refine ⟨by simpa using hrest, hbefore, hafter, ?_⟩
  intro htoggles
  have hrow := htoggles (.row 0)
  rw [hbefore, hafter] at hrow
  cases hrow

end Grid

end DataGrid
