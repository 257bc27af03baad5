import DataGrid.Proofs.Feature.CellDrag
import DataGrid.Proofs.Grid.Toggling

/-!
# Where selections reach from

After a press on a cell the arrow keys step on from that cell, and after a press on a header a press
with shift reaches from that column.  The features keep both places as indexes among the shown
columns.  A move of columns takes the selection along, but it leaves these indexes as they are, so
what is selected next starts from whatever column has come to stand there
(`Grid.selects_from_place_iff`).
-/

namespace DataGrid

variable {α σ : Type} [Pixel α] [DataSource σ]

/-! ### Steps from cell to cell -/

namespace CellPlace

/-- The cell is one of the table. -/
def IsIn (cell : CellPlace) (m : Model α σ) : Prop :=
  cell.row < m.rowCount ∧ cell.column < m.columns.shownCount

/-- The cell that is one step down and to the right of a cell, kept inside the table. -/
def beside (cell : CellPlace) (delta : Int × Int) (m : Model α σ) : CellPlace where
  row := min (cell.row + delta.1).toNat (m.rowCount - 1)
  column := min (cell.column + delta.2).toNat (m.columns.shownCount - 1)

end CellPlace

namespace CellSelection

omit [Pixel α] [DataSource σ] in
theorem step_eq (index : Nat) (delta : Int) (count : Nat) :
  step index delta count false = min (index + delta).toNat (count - 1)
  := by
  rw [step]
  split
  case isTrue h => rw [h, Int.add_zero, Int.toNat_natCast]
  case isFalse => rfl

/-- A plain arrow key steps on from the cell that was reached last, and selects where it leads. -/
theorem exists_key?_of_arrow? {s : CellSelection α} {m : Model α σ} {key : String}
    {delta : Int × Int} (hkey : arrow? key = some delta) {start cell : CellPlace}
    (hfocus : s.focus = some start) (hselection : m.selection = ⟨[rangeTo cell cell]⟩)
    (hcell : cell.IsIn m) :
  ∃ s' m', s.key? ⟨key, .none⟩ m = some (s', m')
    ∧ m'.selection = ⟨[rangeTo (start.beside delta m) (start.beside delta m)]⟩
  := by
  have hother {name : String} (hname : arrow? name = none) : key ≠ name := by
    rintro rfl
    cases hname.symm.trans hkey
  have hsize : ¬ (m.rowCount = 0 ∨ m.columns.shownCount = 0) := by
    obtain ⟨hrow, hcolumn⟩ := hcell
    omega
  have hlast : m.selection.last? .cells = some (rangeTo cell cell) := by
    rw [hselection]
    rfl
  have hfrom : s.steppingFrom? m = some start := by
    rw [steppingFrom?, if_neg hsize, hlast, hfocus]
    rfl
  have hbeside : start.beside delta m
      = ⟨step start.row delta.1 m.rowCount false,
        step start.column delta.2 m.columns.shownCount false⟩ := by
    rw [step_eq, step_eq]
    rfl
  refine ⟨(s.stepOn m start delta .none).1, (s.stepOn m start delta .none).2, ?_, ?_⟩
  · rw [key?, if_neg (hother rfl), decide_eq_false (hother rfl), decide_eq_false (hother rfl)]
    simp only [hkey, hfrom, Option.bind_eq_bind, Option.bind_some]
    rfl
  · rw [hbeside]
    apply (scrolls_reveal _ _).selection_eq.trans
    apply Model.selection_selectIfNew

end CellSelection

/-! ### What features remember -/

namespace BuiltIn

omit [Pixel α] [DataSource σ] in
/-- The feature reaches from a column with the next press with shift. -/
def ReachesFromColumn (i : Nat) (f : BuiltIn α) : Prop :=
  ∃ extending, f = .columnSelection ⟨some i, extending⟩

omit [Pixel α] [DataSource σ] in
/-- The feature steps on from a cell with the next arrow key. -/
def StepsFrom (cell : CellPlace) (f : BuiltIn α) : Prop :=
  ∃ s, f = .cellSelection s ∧ s.focus = some cell

/-- Only a press changes from which column a feature reaches. -/
theorem ReachesFromColumn.handle {i : Nat} {f : BuiltIn α} (h : f.ReachesFromColumn i)
    {input : Input α} (hinput : input.isPress = false) (t : GridTurn α σ) :
  (f.handle input t).feature.ReachesFromColumn i
  := by
  obtain ⟨extending, rfl⟩ := h
  cases input with
  | pointer kind e =>
    cases kind with
    | down => cases hinput
    | drag =>
      refine ⟨extending, ?_⟩
      simp only [BuiltIn.handle, ColumnSelection.handle]
      cases extending with
      | false => rfl
      | true =>
        cases e.shownIndex? with
        | none => rfl
        | some column =>
          rw [Bool.not_true, if_neg Bool.false_ne_true]
          dsimp only
          split <;> rfl
    | up => exact ⟨false, rfl⟩
    | move | doubleClick | contextMenu => exact ⟨extending, rfl⟩
  | key => exact ⟨extending, rfl⟩
  | rendered => exact ⟨extending, rfl⟩

theorem ReachesFromColumn.fire {i : Nat} {f : BuiltIn α} (h : f.ReachesFromColumn i)
    (timer : TimerToken) (t : GridTurn α σ) :
  (f.fire timer t).feature.ReachesFromColumn i
  := by
  obtain ⟨extending, rfl⟩ := h
  exact ⟨extending, rfl⟩

theorem StepsFrom.handle_up {cell : CellPlace} {f : BuiltIn α} (h : f.StepsFrom cell)
    (e : PointerEvent α) (t : GridTurn α σ) :
  (f.handle (.pointer .up e) t).feature.StepsFrom cell
  := by
  obtain ⟨s, rfl, hfocus⟩ := h
  refine ⟨s.stopDrag, ?_, hfocus⟩
  simp only [handle, CellSelection.handle]
  split <;> rfl

/-- A plain press on a header is remembered, whatever was selected before. -/
theorem reachesFromColumn_handle_down {s : ColumnSelection} {e : PointerEvent α} {i : Nat}
    (hpressed : ColumnSelection.pressed? e = some i) (hplain : e.modifiers = .none)
    (t : GridTurn α σ) :
  ((BuiltIn.columnSelection s).handle (.pointer .down e) t).feature.ReachesFromColumn i
  := by
  refine ⟨!t.model.config.columnsReorderable, ?_⟩
  simp only [handle, ColumnSelection.handle, hpressed, hplain, ColumnSelection.press]
  change BuiltIn.columnSelection ⟨(if t.model.selection.isColumnSelected i = true then _ else _
    : Selection × Option Nat).2, _⟩ = _
  split <;> rfl

/-- A press with shift on a header selects from the column that is remembered to the pressed one. -/
theorem presses_shift {e : PointerEvent α} {j : Nat} (i : Nat) (extending : Bool)
    (t : GridTurn α σ) (hpressed : ColumnSelection.pressed? e = some j)
    (hshift : e.modifiers.shift = true) :
  Presses (.columnSelection ⟨some i, extending⟩) e t
    (.columnSelection ⟨some i, !t.model.config.columnsReorderable⟩)
    (t.model.selection.selectColumns i j)
  := by
  constructor
  simp only [handle, ColumnSelection.handle, hpressed, ColumnSelection.press, hshift]
  exact ⟨.pass, _, rfl, Model.toFrame_selectIfNew _ _, Model.selection_selectIfNew _ _⟩

/-- A press on a data cell is remembered. -/
theorem exists_handle_down_of_placeOf? {s : CellSelection α} {e : PointerEvent α}
    (hbutton : e.button = .primary) (hplain : e.modifiers = .none) {start : CellPlace}
    (hplace : e.cell?.bind CellSelection.placeOf? = some start) (t : GridTurn α σ) :
  ∃ f' m', (BuiltIn.cellSelection s).handle (.pointer .down e) t
      = ⟨.ok .stop, f', { t with model := m' }⟩ ∧ f'.StepsFrom start
  := by
  simp only [handle, CellSelection.handle, if_pos hbutton, hplace, CellSelection.press, hplain]
  exact ⟨_, _, rfl, _, rfl, rfl⟩

end BuiltIn

namespace Grid

variable {g : Grid α σ (BuiltIn α)} {k : Nat}

/-! ### What lies between -/

theorem has_perform_pointer {P : BuiltIn α → Prop} (h : g.pipeline.Has k P) {kind : PointerKind}
    {point : Point α} {button : Button} {modifiers : Modifiers}
    (hkept : ∀ (f : BuiltIn α) (t : GridTurn α σ), P f →
      P (f.handle (.pointer kind (g.pointerEvent point button modifiers)) t).feature) :
  (g.perform (.pointer kind point button modifiers)).grid.pipeline.Has k P
  := by
  rw [(g.perform_pointer_eq kind point button modifiers).1]
  apply h.dispatch g.model g.now hkept

/-- Whatever is called, a feature reaches from the same column until the next press. -/
theorem reachesFromColumn_run {i : Nat} {calls : List (Call α σ)}
    (hcalls : ∀ c ∈ calls, c.isPress = false)
    (h : g.pipeline.Has k fun f => f.ReachesFromColumn i) :
  (g.run calls).pipeline.Has k fun f => f.ReachesFromColumn i
  := by
  induction calls generalizing g with
  | nil => apply h
  | cons c rest ih =>
    apply ih fun c' hc' => hcalls c' (List.mem_cons_of_mem c hc')
    apply keeps_of_effect (M := fun p _ => p.Has k fun f => f.ReachesFromColumn i) _ _ _
      (hcalls c List.mem_cons_self) h
    · intro p m input now hinput h
      apply h.dispatch m now fun f t hf => hf.handle hinput t
    · intro p m now h
      apply h.tick (Input α) m now fun f timer t hf => hf.fire timer t
    · intro p m m' h _
      apply h

/-- Moves of columns by the host do not concern the features. -/
theorem pipeline_run_moveColumns (g : Grid α σ (BuiltIn α)) (moves : List (Nat × Nat × Nat)) :
  (g.run (moves.map fun m => .moveColumns m.1 m.2.1 m.2.2)).pipeline = g.pipeline
  := by
  induction moves generalizing g with
  | nil => rfl
  | cons move rest ih => exact (ih _).trans (settle_eq _).1

theorem IsStandard.run (h : g.IsStandard) (calls : List (Call α σ)) :
  (g.run calls).IsStandard
  := by
  induction calls generalizing g with
  | nil => apply h
  | cons c rest ih => apply ih (h.perform c)

/-- While no columns are held, an input that is no press cuts no feature off. -/
theorem IsStandard.detachedAt_dispatch (hg : g.IsStandard) (hnone : g.pipeline.detachedAt = none)
    {input : Input α} (hinput : input.isPress = false) :
  (g.pipeline.dispatch g.model g.now input).pipeline.detachedAt = none
  := by
  have hmoves : g.pipeline.Moves movingIndex .idle := by
    obtain hheld | ⟨t, hawaits⟩ := hg.isAttachable
    · cases hnone.symm.trans hheld.detachedAt_eq
    · apply hawaits.moves
  -- no such timer attaches a pipeline, so it can only be attached
  let t : Timer := ⟨0, .feature 0, 0⟩
  have hawaits : (g.pipeline.dispatch g.model g.now input).pipeline.Awaits movingIndex t := by
    apply Pipeline.dispatch_keeps (M := fun p _ => p.Awaits movingIndex t) _
      (.attached hmoves hnone)
    intro i p m f h hf _
    obtain h | ⟨hpress, -⟩ := h.turn hf m g.now input
    · apply h
    · cases hpress.symm.trans hinput
  cases hawaits with
  | attached _ detachedAt => apply detachedAt
  | detached _ _ target => cases target

/-! ### Cells -/

/-- The arrow keys step on from a cell, and every feature hears of them. -/
structure StepsFrom (g : Grid α σ (BuiltIn α)) (start : CellPlace) : Prop where
  own : g.pipeline.Has cellsIndex fun f => f.StepsFrom start
  attached : g.pipeline.detachedAt = none

/-- After a plain press on a data cell the keys step on from there. -/
theorem stepsFrom_perform_down (hg : g.IsStandard) (hattached : g.pipeline.detachedAt = none)
    {point : Point α} {start : CellPlace}
    (hplace : (g.pointerEvent point .primary .none).cell?.bind CellSelection.placeOf?
      = some start) :
  (g.perform (.pointer .down point .primary .none)).grid.StepsFrom start
  := by
  obtain ⟨s, hs⟩ := Pipeline.exists_cellSelection hg.names
  obtain ⟨f', m', hdown, hsteps⟩ :=
    BuiltIn.exists_handle_down_of_placeOf? (s := s) rfl rfl hplace
      (g.pipeline.turn g.model cellsIndex g.now)
  obtain ⟨c, hc, hplaceOf⟩ := Option.bind_eq_some_iff.mp hplace
  have hdata : c.cell.isDataCell = true := by
    rw [CellSelection.placeOf?] at hplaceOf
    split at hplaceOf
    · assumption
    · cases hplaceOf
  have hcount : cellsIndex < g.pipeline.attachedCount :=
    Pipeline.lt_attachedCount_of_names hg.names (k := cellsIndex) (.inl hattached) (Nat.le_refl _)
      (by decide)
  have hfor := Pipeline.isFor_down (m := g.model) g.now hg.names hs hcount
    (fun hname => BuiltIn.takesPress_of_isDataCell rfl hc hdata hname)
  rw [hdown] at hfor
  have hdelivered := (hfor (fun h => by cases h) rfl).dispatch
  constructor
  case own =>
    rw [(g.perform_pointer_eq .down point .primary .none).1]
    exact ⟨f', hdelivered.own, hsteps⟩
  case attached =>
    rw [(g.perform_pointer_eq .down point .primary .none).1, hdelivered.resembles.detachedAt_eq]
    apply hattached

namespace StepsFrom

variable {start : CellPlace}

theorem perform_up (h : g.StepsFrom start) (hg : g.IsStandard) (point : Point α) (button : Button)
    (modifiers : Modifiers) :
  (g.perform (.pointer .up point button modifiers)).grid.StepsFrom start
  := by
  constructor
  case own => apply has_perform_pointer h.own fun f t hf => hf.handle_up _ t
  case attached =>
    rw [(g.perform_pointer_eq .up point button modifiers).1]
    apply hg.detachedAt_dispatch h.attached rfl

theorem run_moveColumns (h : g.StepsFrom start) (moves : List (Nat × Nat × Nat)) :
  (g.run (moves.map fun m => .moveColumns m.1 m.2.1 m.2.2)).StepsFrom start
  := by
  obtain ⟨own, attached⟩ := h
  rw [← pipeline_run_moveColumns g moves] at own attached
  exact ⟨own, attached⟩

/-- A plain arrow key leads one step away from the cell, whichever cell is selected. -/
theorem selection_arrow (h : g.StepsFrom start) (hg : g.IsStandard) {key : String}
    {delta : Int × Int} (hkey : CellSelection.arrow? key = some delta) {cell : CellPlace}
    (hselection : g.model.selection = ⟨[CellSelection.rangeTo cell cell]⟩)
    (hcell : cell.IsIn g.model) :
  (g.perform (.key .down ⟨key, .none⟩)).grid.model.selection
    = ⟨[CellSelection.rangeTo (start.beside delta g.model) (start.beside delta g.model)]⟩
  := by
  obtain ⟨_, hown, s, rfl, hfocus⟩ := h.own
  obtain ⟨s', m', hkey?, hm'⟩ :=
    CellSelection.exists_key?_of_arrow? hkey hfocus hselection hcell
  have hescape : key ≠ "Escape" := by
    rintro rfl
    cases hkey
  have hcount : cellsIndex < g.pipeline.attachedCount :=
    Pipeline.lt_attachedCount_of_names hg.names (k := cellsIndex) (.inl h.attached) (Nat.le_refl _)
      (by decide)
  have hfor : g.pipeline.IsFor g.model g.now (.key .down ⟨key, .none⟩ : Input α) id cellsIndex
      ⟨.ok .stop, .cellSelection s',
        { g.pipeline.turn g.model cellsIndex g.now with model := m' }⟩ := by
    constructor
    case toGetsTo =>
      refine ⟨⟨_, hown, ?_⟩, hcount, ?_⟩
      · change s.key? _ (g.pipeline.turn g.model cellsIndex g.now).model = _ at hkey?
        change BuiltIn.reply .cellSelection (CellSelection.handle s _ _) = _
        rw [CellSelection.handle, hkey?]
        rfl
      · intro i f hi hf
        have hpaging : i ≠ 8 := Nat.ne_of_lt (Nat.lt_trans hi (by decide))
        apply BuiltIn.handsOn_key hescape
        · apply Pipeline.name_ne_of_ne hg.names hf rfl (Nat.ne_of_lt hi)
        · apply Pipeline.name_ne_of_ne hg.names hf rfl hpaging
    case behind =>
      intro i f hresult
      cases hresult
    case request => rfl
  apply (Model.selection_eq_of_still_eq (g.perform_key_eq .down ⟨key, .none⟩).2).trans
  rw [hfor.dispatch.model_eq]
  apply hm'

end StepsFrom

/-! ### Columns -/

/-- A press is on the header of a shown column, away from the edges that other features take. -/
structure PressesHeader (g : Grid α σ (BuiltIn α)) (e : PointerEvent α) (i : Nat) : Prop where
  pressed : ColumnSelection.pressed? e = some i
  divider : ColumnResizing.divider? g.model e = none
  edge : (e.isPlainPress && ColumnFixation.onHandle g.model e) = false

omit [DataSource σ] in
theorem PressesHeader.of_eq {e : PointerEvent α} {i : Nat}
    (h : (ColumnSelection.pressed? e, ColumnResizing.divider? g.model e,
      e.isPlainPress && ColumnFixation.onHandle g.model e) = (some i, none, false)) :
  g.PressesHeader e i
  := by
  simp only [Prod.mk.injEq] at h
  exact ⟨h.1, h.2.1, h.2.2⟩

/-- No feature but those that select and move columns takes a press on a header. -/
theorem PressesHeader.takesPress_eq {e : PointerEvent α} {i : Nat} (h : g.PressesHeader e i)
    {m : Model α σ} (hm : m.toFrame = g.model.toFrame) {f : BuiltIn α}
    (hname : f.name ≠ "column_selection")
    (hmoving : f.name ≠ "column_moving" ∨ e.isPlainPress = false) :
  BuiltIn.takesPress m e f = false
  := by
  have hpressed := h.pressed
  rw [ColumnSelection.pressed?] at hpressed
  split at hpressed
  case isFalse => cases hpressed
  case isTrue hbutton =>
    obtain ⟨c, hc, -⟩ := Option.bind_eq_some_iff.mp hpressed
    obtain ⟨hcell, hheader⟩ := Option.filter_eq_some_iff.mp hc
    have hedge : (e.isPlainPress && ColumnFixation.onHandle m e) = false := by
      rw [← h.edge, ColumnFixation.onHandle, ColumnFixation.onHandle, ColumnFixation.reach,
        ColumnFixation.reach, hm]
    apply BuiltIn.takesPress_of_isHeaderCell hbutton hedge
      ((ColumnResizing.divider?_congr hm e).trans h.divider) hcell hheader hname
    apply hmoving.imp_right
    intro hplain
    rw [ColumnMoving.pressed?, hplain]
    rfl

/-- After a plain press on a header, a press with shift reaches from that column. -/
theorem reachesFromColumn_perform_down (hg : g.IsStandard) {point : Point α} {i : Nat}
    (hpress : g.PressesHeader (g.pointerEvent point .primary .none) i) :
  (g.perform (.pointer .down point .primary .none)).grid.pipeline.Has columnsIndex
    fun f => f.ReachesFromColumn i
  := by
  obtain ⟨s, hs⟩ := Pipeline.exists_columnSelection hg.names
  have hgets := Pipeline.getsTo_down (m := g.model) g.now hs (hg.lt_attachedCount (by decide))
    (e := g.pointerEvent point .primary .none) (by
      intro i f hi hf
      have hmoving : i ≠ movingIndex := Nat.ne_of_lt (Nat.lt_trans hi (by decide))
      apply hpress.takesPress_eq rfl
      · apply Pipeline.name_ne_of_ne hg.names hf rfl (Nat.ne_of_lt hi)
      · exact .inl (Pipeline.name_ne_of_ne hg.names hf rfl hmoving))
  rw [(g.perform_pointer_eq .down point .primary .none).1]
  exact ⟨_, hgets.own_dispatch, BuiltIn.reachesFromColumn_handle_down hpress.pressed rfl _⟩

/-- A press with shift on a header selects from the column that is remembered. -/
theorem selection_shift (hg : g.IsStandard) {i j : Nat}
    (hreaches : g.pipeline.Has columnsIndex fun f => f.ReachesFromColumn i) {point : Point α}
    {modifiers : Modifiers} (hshift : modifiers.shift = true)
    (hpress : g.PressesHeader (g.pointerEvent point .primary modifiers) j) :
  (g.perform (.pointer .down point .primary modifiers)).grid.model.selection
    = g.model.selection.selectColumns i j
  := by
  obtain ⟨_, hown, extending, rfl⟩ := hreaches
  have hplain : (g.pointerEvent point .primary modifiers).isPlainPress = false := by
    have hany : modifiers.any = true := by simp [Modifiers.any, hshift]
    rw [PointerEvent.isPlainPress]
    change (_ && !modifiers.any) = false
    rw [hany, Bool.not_true, Bool.and_false]
  obtain ⟨flow, m', hdown, hframe, hselection⟩ := (BuiltIn.presses_shift i extending
    (g.pipeline.turn g.model columnsIndex g.now) hpress.pressed hshift).down
  have hfor := Pipeline.isFor_down (m := g.model) g.now hg.names hown
    (hg.lt_attachedCount (by decide))
    (fun hname => hpress.takesPress_eq rfl hname (.inr hplain))
  rw [hdown] at hfor
  have hdelivered := (hfor (fun _ _ hname => hpress.takesPress_eq hframe hname (.inr hplain))
    rfl).dispatch
  apply (Model.selection_eq_of_still_eq
    (g.perform_pointer_eq .down point .primary modifiers).2).trans
  rw [hdelivered.model_eq]
  apply hselection

end Grid

namespace Grid

variable {g : Grid α σ (BuiltIn α)}

/-- After a plain press on a data cell, a release and moves of columns, with one cell selected, a
plain arrow key selects the cell next to that one exactly if it is next to the cell that was pressed,
too.  After a plain press on a header and whatever calls but presses, a press with shift on the
header at `j` selects the columns between `x` and `j` exactly if `x` is the index at which the first
header was pressed. -/
theorem selects_from_place_iff (hg : g.IsStandard) (point : Point α) :
  (∀ {start : CellPlace},
    (g.pointerEvent point .primary .none).cell?.bind CellSelection.placeOf? = some start →
    g.pipeline.detachedAt = none →
    ∀ (point' : Point α) (button : Button) (modifiers : Modifiers) (moves : List (Nat × Nat × Nat)),
    let released :=
      g.run [.pointer .down point .primary .none, .pointer .up point' button modifiers]
    let moved := released.run (moves.map fun m => .moveColumns m.1 m.2.1 m.2.2)
    ∀ {cell : CellPlace}, moved.model.selection = ⟨[CellSelection.rangeTo cell cell]⟩ →
      cell.IsIn moved.model →
    ∀ {key : String} {delta : Int × Int}, CellSelection.arrow? key = some delta →
    let beside := cell.beside delta moved.model
    (moved.perform (.key .down ⟨key, .none⟩)).grid.model.selection
        = ⟨[CellSelection.rangeTo beside beside]⟩
      ↔ start.beside delta moved.model = beside)
  ∧ ∀ {i : Nat}, g.PressesHeader (g.pointerEvent point .primary .none) i →
    ∀ {calls : List (Call α σ)}, (∀ c ∈ calls, c.isPress = false) →
    let before := (g.perform (.pointer .down point .primary .none)).grid.run calls
    ∀ {point' : Point α} {modifiers : Modifiers} {j : Nat}, modifiers.shift = true →
      before.PressesHeader (before.pointerEvent point' .primary modifiers) j →
    let after := (before.perform (.pointer .down point' .primary modifiers)).grid
    ∀ x, (∀ y, after.model.selection.isColumnSelected y = true ↔ min x j ≤ y ∧ y ≤ max x j) ↔ x = i
  := by
  constructor
  · intro start hplace hattached point' button modifiers moves released moved cell hselection hcell
      key delta hkey beside
    have hpressed := stepsFrom_perform_down hg hattached hplace
    have hreleased : released.StepsFrom start :=
      hpressed.perform_up (hg.perform _) point' button modifiers
    have hmoved : moved.StepsFrom start := hreleased.run_moveColumns moves
    have hstandard : moved.IsStandard := (hg.run _).run _
    rw [hmoved.selection_arrow hstandard hkey hselection hcell, Selection.mk.injEq, List.cons.injEq]
    constructor
    · rintro ⟨hrange, -⟩
      apply (CellSelection.rangeTo_inj hrange).1
    · intro heq
      rw [heq]
      exact ⟨rfl, rfl⟩
  · intro i hpress calls hcalls before point' modifiers j hshift hpress' after x
    have hreaches : before.pipeline.Has columnsIndex fun f => f.ReachesFromColumn i :=
      reachesFromColumn_run hcalls (reachesFromColumn_perform_down hg hpress)
    have hselection : after.model.selection = before.model.selection.selectColumns i j :=
      selection_shift ((hg.perform _).run calls) hreaches hshift hpress'
    rw [hselection]
    simp only [Selection.isColumnSelected_selectColumns]
    constructor
    · intro h
      have hi := h i
      have hj := h j
      have hx := h x
      omega
    · rintro rfl y
      exact Iff.rfl

/-- The first of four columns is moved to where the third one was, once after a press on its first
cell and once after a press on its header. -/
theorem selects_from_place_iff_moved :
  let g : Grid Rat Table (BuiltIn Rat) :=
    ofPipeline (Table.generate 4 3 fun x y => .text (toString (x + y)))
      (ColumnSchema.ofNames ["a", "b", "c", "d"])
      { Config.default with columnsReorderable := false } (.ofFeatures BuiltIn.all)
  let shift : Modifiers := { Modifiers.none with shift := true }
  let start : CellPlace := ⟨0, 0⟩
  let cell : CellPlace := ⟨0, 2⟩
  let released :=
    g.run [.pointer .down ⟨60, 30⟩ .primary .none, .pointer .up ⟨60, 30⟩ .primary .none]
  let moved := released.run ([(0, 1, 3)].map fun m => .moveColumns m.1 m.2.1 m.2.2)
  let beside := cell.beside (0, 1) moved.model
  let calls : List (Call Rat Table) :=
    [.pointer .up ⟨90, 10⟩ .primary .none, .moveColumns 0 1 3]
  let before := (g.perform (.pointer .down ⟨90, 10⟩ .primary .none)).grid.run calls
  let after := (before.perform (.pointer .down ⟨390, 10⟩ .primary shift)).grid
  g.IsStandard
    ∧ ((g.pointerEvent ⟨60, 30⟩ .primary .none).cell?.bind CellSelection.placeOf? = some start
      ∧ g.pipeline.detachedAt = none
      ∧ moved.model.selection = ⟨[CellSelection.rangeTo cell cell]⟩ ∧ cell.IsIn moved.model
      ∧ CellSelection.arrow? "ArrowRight" = some (0, 1)
      ∧ ((moved.perform (.key .down ⟨"ArrowRight", .none⟩)).grid.model.selection
          = ⟨[CellSelection.rangeTo beside beside]⟩
        ↔ start.beside (0, 1) moved.model = beside))
    ∧ g.PressesHeader (g.pointerEvent ⟨90, 10⟩ .primary .none) 0
    ∧ (∀ c ∈ calls, c.isPress = false) ∧ shift.shift = true
    ∧ before.PressesHeader (before.pointerEvent ⟨390, 10⟩ .primary shift) 3
    ∧ ∀ x, (∀ y, after.model.selection.isColumnSelected y = true ↔ min x 3 ≤ y ∧ y ≤ max x 3)
      ↔ x = 0
  := by
  intro g shift start cell released moved beside calls before after
  have hg : g.IsStandard := .new _ _ _ Pipeline.ofNames_defaultFeatures
  have hplace : (g.pointerEvent ⟨60, 30⟩ .primary .none).cell?.bind CellSelection.placeOf?
      = some start := by
    simp only [g, start]
    cbv
  have hmoved : (moved.model.selection, moved.model.rowCount, moved.model.columns.shownCount)
      = (⟨[CellSelection.rangeTo cell cell]⟩, 3, 4) := by
    simp only [moved, released, g, cell]
    cbv
  simp only [Prod.mk.injEq] at hmoved
  obtain ⟨hselection, hrows, hcolumns⟩ := hmoved
  have hcell : cell.IsIn moved.model := ⟨by rw [hrows]; decide, by rw [hcolumns]; decide⟩
  have hpress : g.PressesHeader (g.pointerEvent ⟨90, 10⟩ .primary .none) 0 := by
    apply PressesHeader.of_eq
    simp only [g]
    cbv
  have hcalls : ∀ c ∈ calls, c.isPress = false := by
    intro c hc
    simp only [calls, List.mem_cons, List.not_mem_nil, or_false] at hc
    obtain rfl | rfl := hc <;> rfl
  have hpress' : before.PressesHeader (before.pointerEvent ⟨390, 10⟩ .primary shift) 3 := by
    apply PressesHeader.of_eq
    simp only [before, calls, g, shift]
    cbv
  have hshift : shift.shift = true := rfl
  have hattached : g.pipeline.detachedAt = none := rfl
  -- all that has to be computed is known now
  clear_value g
  obtain ⟨hcells, -⟩ := selects_from_place_iff hg ⟨60, 30⟩
  obtain ⟨-, hcolumns⟩ := selects_from_place_iff hg ⟨90, 10⟩
  refine ⟨hg, ⟨hplace, hattached, hselection, hcell, rfl, ?_⟩, hpress, hcalls, hshift, hpress', ?_⟩
  · simp only [beside, moved, released]
    exact hcells hplace hattached ⟨60, 30⟩ .primary .none [(0, 1, 3)] hselection hcell rfl
  · simp only [after, before]
    exact hcolumns hpress hcalls hshift hpress'

/-- The first of four columns is moved to where the third one was.  After a press on its cell the
next arrow key steps away from the first column, and after a press on its header the next press with
shift reaches from there. -/
theorem selects_from_old_place :
  let g : Grid Rat Table (BuiltIn Rat) :=
    ofPipeline (Table.generate 4 3 fun x y => .text (toString (x + y)))
      (ColumnSchema.ofNames ["a", "b", "c", "d"])
      { Config.default with columnsReorderable := false } (.ofFeatures BuiltIn.all)
  let cells := g.run [.pointer .down ⟨60, 30⟩ .primary .none,
    .pointer .up ⟨60, 30⟩ .primary .none, .moveColumns 0 1 3]
  let stepped := (cells.perform (.key .down ⟨"ArrowRight", .none⟩)).grid
  let header := g.run [.pointer .down ⟨90, 10⟩ .primary .none,
    .pointer .up ⟨90, 10⟩ .primary .none, .moveColumns 0 1 3]
  let reached := (header.perform
    (.pointer .down ⟨390, 10⟩ .primary { Modifiers.none with shift := true })).grid
  (cells.model.selection = ⟨[.cells 0 2 0 2]⟩
      ∧ (⟨0, 2⟩ : CellPlace).beside (0, 1) cells.model = ⟨0, 3⟩
      ∧ stepped.model.selection = ⟨[.cells 0 1 0 1]⟩)
    ∧ header.model.selection = ⟨[.columns 2 2]⟩ ∧ reached.model.selection = ⟨[.columns 0 3]⟩
    ∧ ¬ ∀ y, reached.model.selection.isColumnSelected y = true ↔ min 2 3 ≤ y ∧ y ≤ max 2 3
  := by
  intro g cells stepped header reached
  have hcells : (cells.model.selection, (⟨0, 2⟩ : CellPlace).beside (0, 1) cells.model,
      stepped.model.selection) = (⟨[.cells 0 2 0 2]⟩, ⟨0, 3⟩, ⟨[.cells 0 1 0 1]⟩) := by
    simp only [stepped, cells, g]
    cbv
  have hcolumns : (header.model.selection, reached.model.selection)
      = (⟨[.columns 2 2]⟩, ⟨[.columns 0 3]⟩) := by
    simp only [reached, header, g]
    cbv
  simp only [Prod.mk.injEq] at hcells hcolumns
  obtain ⟨hheader, hreached⟩ := hcolumns
  refine ⟨hcells, hheader, hreached, ?_⟩
  intro h
  have hfirst := h 0
  rw [hreached] at hfirst
  have hselected : (⟨[.columns 0 3]⟩ : Selection).isColumnSelected 0 = true := rfl
  cases (hfirst.mp hselected).1

end Grid

end DataGrid
