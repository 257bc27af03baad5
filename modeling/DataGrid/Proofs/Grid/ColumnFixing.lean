import DataGrid.Proofs.Grid.ColumnDrag
import DataGrid.Proofs.Grid.Standard
import DataGrid.Proofs.Layout.Fixing

/-!
# Fixing columns with the pointer

A press on the edge of the fixed columns scrolls the grid back to its first column, drags pick a
number of columns to fix, and a release fixes them.  Until then the layout stays as it is after the
press (`Grid.Fixing.perform`), and no number beyond the last column on the screen is picked.  So if
a column on the screen scrolls after the press, one does after the release
(`Grid.leavesScrolling_of_press`).
-/

namespace DataGrid

variable {α σ : Type}

/-- The place of the feature that fixes columns among the default features. -/
def fixingIndex : Nat := defaultFeatures.idxOf "column_fixation"

namespace Model

variable [Pixel α] [DataSource σ]

/-- The same columns are shown in the same layout, on the same table. -/
structure Keeps (m m' : Model α σ) : Prop where
  frame_eq : m'.toFrame.silent = m.toFrame.silent
  data_eq : m'.data = m.data

namespace Keeps

variable {m m' m'' : Model α σ}

omit [Pixel α] [DataSource σ] in
theorem of_still_eq (h : m'.still = m.still) :
  m.Keeps m'
  := ⟨silent_eq_of_still_eq h, congrArg (fun m => m.data) h⟩

omit [Pixel α] [DataSource σ] in
theorem trans (h : m.Keeps m') (h' : m'.Keeps m'') :
  m.Keeps m''
  := ⟨h'.frame_eq.trans h.frame_eq, h'.data_eq.trans h.data_eq⟩

theorem isCoherent (h : m.Keeps m') (hm : m.IsCoherent) :
  m'.IsCoherent
  := (Tracks.same h.frame_eq h.data_eq).isCoherent hm

end Keeps

end Model

namespace ColumnFixation

variable [Pixel α] [DataSource σ]

omit [DataSource σ] in
/-- No more columns are picked than stand in front of the last one on the screen. -/
theorem le_lastShown?_of_target? {m : Model α σ} {x : α} {count : Nat}
    (h : target? m x = some count) :
  ∃ last, m.layout.lastShown? = some last ∧ count ≤ last
  := by
  obtain ⟨nearest, -, h⟩ := Option.bind_eq_some_iff.mp h
  obtain ⟨column, hcolumn, h⟩ := Option.bind_eq_some_iff.mp h
  obtain ⟨last, hlast, h⟩ := Option.bind_eq_some_iff.mp h
  obtain rfl := Option.some.inj h
  refine ⟨last, ?_, Nat.min_le_right _ _⟩
  rw [Layout.lastShown?, hcolumn]
  exact hlast

omit [Pixel α] [DataSource σ] in
theorem keeps_showBar (m : Model α σ) (bar : Option (Bar α)) :
  m.Keeps (showBar m bar)
  := ⟨rfl, rfl⟩

end ColumnFixation

/-! ### The pipeline -/

namespace Pipeline

/-- The features are the default ones, the one that fixes columns sees inputs and would fix this
many, and no other is in the middle of a drag. -/
structure FixesColumns (count : Nat) (p : Pipeline (BuiltIn α)) : Prop where
  names : p.features.map BuiltIn.name = defaultFeatures
  own : ∃ overHandle, p.features[fixingIndex]? = some (.columnFixation ⟨some count, overHandle⟩)
  attached : fixingIndex < p.attachedCount
  rest : ∀ {i : Nat} {f : BuiltIn α}, i ≠ fixingIndex → p.features[i]? = some f →
    f.isDragging = false

theorem exists_columnFixation {p : Pipeline (BuiltIn α)}
    (hnames : p.features.map BuiltIn.name = defaultFeatures) :
  ∃ s, p.features[fixingIndex]? = some (.columnFixation s)
  := by
  obtain ⟨f, hf, hname⟩ := exists_of_names hnames (i := fixingIndex) rfl
  cases f with
  | columnFixation s => exact ⟨s, hf⟩
  | _ => simp [BuiltIn.name] at hname

/-- Only the feature for hovering stands before the one that fixes columns. -/
theorem eq_hover_of_lt {p : Pipeline (BuiltIn α)}
    (hnames : p.features.map BuiltIn.name = defaultFeatures) {i : Nat} (hi : i < fixingIndex)
    {f : BuiltIn α} (hf : p.features[i]? = some f) :
  f = .hover
  := by
  obtain rfl : i = 0 := Nat.lt_one_iff.mp hi
  have hname := getElem?_name hnames hf
  cases f with
  | hover => rfl
  | _ => simp [BuiltIn.name, defaultFeatures] at hname

variable [Pixel α] [DataSource σ] {p : Pipeline (BuiltIn α)} {m : Model α σ} {now : Float}
  {e : PointerEvent α}

/-- An input that the feature for hovering hands on, and that the one that fixes columns stops. -/
theorem isFor_fixing (hnames : p.features.map BuiltIn.name = defaultFeatures)
    {s : ColumnFixation} (hs : p.features[fixingIndex]? = some (.columnFixation s))
    (hattached : fixingIndex < p.attachedCount) {input : Input α}
    (next : BuiltIn α → BuiltIn α) (hhover : HandsOn input m .hover (next .hover))
    {f : BuiltIn α} {t : GridTurn α σ}
    (hreply : (BuiltIn.columnFixation s).handle input (p.turn m fixingIndex now)
      = ⟨.ok .stop, f, t⟩)
    (hrequest : t.request = .none) :
  p.IsFor m now input next fixingIndex ⟨.ok .stop, f, t⟩
  := by
  constructor
  case toGetsTo =>
    refine ⟨⟨_, hs, hreply⟩, hattached, ?_⟩
    intro i f hi hf
    obtain rfl := eq_hover_of_lt hnames hi hf
    apply hhover
  case behind =>
    intro i f hresult
    cases hresult
  case request => apply hrequest

omit [Pixel α] [DataSource σ] in
theorem fixesColumns_iff {count : Nat} :
  p.FixesColumns count
    ↔ p.DragsAlone fixingIndex fun f => ∃ overHandle, f = .columnFixation ⟨some count, overHandle⟩
  := by
  constructor
  · intro h
    obtain ⟨overHandle, hown⟩ := h.own
    exact ⟨h.names, ⟨_, hown, overHandle, rfl⟩, h.attached, h.rest⟩
  · intro h
    obtain ⟨_, hown, overHandle, rfl⟩ := h.own
    exact ⟨h.names, ⟨overHandle, hown⟩, h.attached, h.rest⟩

/-- A press on the edge of the fixed columns scrolls back, and as many columns would be fixed as
are. -/
theorem fixesColumns_dispatch_down (hnames : p.features.map BuiltIn.name = defaultFeatures)
    (hattached : fixingIndex < p.attachedCount)
    (hrest : ∀ f ∈ p.features, f.isDragging = false) (hplain : e.isPlainPress = true)
    (hedge : ColumnFixation.onHandle m e = true) (now : Float) :
  let m' := m.scrollTo 0 m.viewport.scrollTop
  (p.dispatch m now (Input.pointer .down e)).pipeline.FixesColumns m'.fixedColumns
    ∧ (p.dispatch m now (Input.pointer .down e)).model
      = ColumnFixation.showBar m' (ColumnFixation.bar? m' m'.fixedColumns)
  := by
  intro m'
  obtain ⟨s, hs⟩ := exists_columnFixation hnames
  have hreply : (BuiltIn.columnFixation s).handle (.pointer .down e) (p.turn m fixingIndex now)
      = ⟨.ok .stop, .columnFixation ⟨some m'.fixedColumns, s.overHandle⟩,
          { p.turn m fixingIndex now with
            model := ColumnFixation.showBar m' (ColumnFixation.bar? m' m'.fixedColumns) }⟩ := by
    have hpress : (e.isPlainPress && ColumnFixation.onHandle m e) = true := by
      rw [hplain, hedge]
      rfl
    simp only [BuiltIn.handle, ColumnFixation.handle]
    change BuiltIn.reply _ (if (e.isPlainPress && ColumnFixation.onHandle m e) = true then _
      else _) = _
    rw [if_pos hpress]
    rfl
  rw [fixesColumns_iff]
  apply dragsAlone_of_isFor hnames _
    (isFor_fixing hnames hs hattached id (fun _ _ => rfl) hreply rfl) ⟨s.overHandle, rfl⟩
  · intro f hf
    exact hf
  · intro i f _ hf
    exact hrest f (List.mem_of_getElem? hf)

namespace FixesColumns

variable {count : Nat}

/-- A drag picks the number of columns for its place, if there is one. -/
theorem dispatch_drag (h : p.FixesColumns count) (m : Model α σ) (e : PointerEvent α)
    (now : Float) :
  (p.dispatch m now (Input.pointer .drag e)).pipeline.FixesColumns
      ((ColumnFixation.target? m e.point.x).getD count)
    ∧ ∃ bar, (p.dispatch m now (Input.pointer .drag e)).model = ColumnFixation.showBar m bar
  := by
  obtain ⟨overHandle, hown⟩ := h.own
  have hreply : ∃ bar, (BuiltIn.columnFixation ⟨some count, overHandle⟩).handle
      (.pointer .drag e) (p.turn m fixingIndex now)
      = ⟨.ok .stop, .columnFixation
          ⟨some ((ColumnFixation.target? m e.point.x).getD count), overHandle⟩,
          { p.turn m fixingIndex now with model := ColumnFixation.showBar m bar }⟩ := by
    have hmodel : (p.turn m fixingIndex now).model = m := rfl
    cases htarget : ColumnFixation.target? m e.point.x with
    | none =>
      refine ⟨m.overlays.fixedColumnBar, ?_⟩
      simp only [BuiltIn.handle, ColumnFixation.handle, hmodel, htarget]
      rfl
    | some count' =>
      refine ⟨ColumnFixation.bar? m count', ?_⟩
      simp only [BuiltIn.handle, ColumnFixation.handle, hmodel, htarget]
      rfl
  obtain ⟨bar, hreply⟩ := hreply
  have hfor := isFor_fixing h.names hown h.attached id (fun _ _ => rfl) hreply rfl
  refine ⟨?_, bar, hfor.dispatch.model_eq⟩
  rw [fixesColumns_iff]
  exact (dragsAlone_of_isFor h.names h.rest hfor ⟨overHandle, rfl⟩ fun hf => hf).1

/-- A release fixes the columns. -/
theorem dispatch_up (h : p.FixesColumns count) (m : Model α σ) (e : PointerEvent α) (now : Float) :
  (p.dispatch m now (Input.pointer .up e)).model
    = (ColumnFixation.showBar m none).setFixedColumns count
  := by
  obtain ⟨overHandle, hown⟩ := h.own
  have hreply : (BuiltIn.columnFixation ⟨some count, overHandle⟩).handle (.pointer .up e)
      (p.turn m fixingIndex now)
      = ⟨.ok .stop, .columnFixation ⟨none, overHandle⟩,
          { p.turn m fixingIndex now with
            model := (ColumnFixation.showBar m none).setFixedColumns count }⟩ := rfl
  apply (isFor_fixing h.names hown h.attached id (fun _ _ => rfl) hreply
    rfl).dispatch.model_eq

/-- No timer is for the feature that fixes columns. -/
theorem tick (h : p.FixesColumns count) (m : Model α σ) (now : Float) :
  (p.tick (Input α) m now).pipeline.FixesColumns count
    ∧ (p.tick (Input α) m now).model = m
  := by
  rw [fixesColumns_iff] at h ⊢
  apply h.tick
  rintro f ⟨overHandle, rfl⟩ token t
  rfl

end FixesColumns

end Pipeline

/-! ### The model -/

namespace Model

variable [DataSource σ]

/-- Columns can be fixed up to the last one on the screen, and one that scrolls is left. -/
theorem leavesScrolling_setFixedColumns {m : Model Rat σ} (hm : m.IsCoherent)
    (hwidths : m.columns.HasWidths) (hv : m.viewport.scrollLeft = 0) {column : PlacedColumn Rat}
    (hcolumn : column ∈ m.layout.columns) {i : Nat} (hslot : column.slot = .shown i)
    (hfixed : m.fixedColumns ≤ i) {last count : Nat} (hlast : m.layout.lastShown? = some last)
    (hcount : count ≤ last) :
  (m.setFixedColumns count).toFrame.LeavesScrolling
  := by
  apply Frame.leavesScrolling_of_le hwidths hm.layout_eq hv hcolumn hslot hfixed hlast hcount
    (columns_setFixedColumns m count)
  all_goals
    rw [setFixedColumns]
    dsimp only
    split
  case hconfig.isTrue hsame => rw [← hsame]
  case hconfig.isFalse => rfl
  case hl'.isTrue => apply hm.layout_eq
  case hl'.isFalse => rfl
  case hv'.isTrue => apply hv
  case hv'.isFalse =>
    change min m.viewport.scrollLeft _ = 0
    rw [hv, Nat.zero_min]
  case hwidth.isTrue => rfl
  case hwidth.isFalse => rfl

end Model

/-! ### The grid -/

namespace Grid

variable [Pixel α] [DataSource σ] {g pressed : Grid α σ (BuiltIn α)}

/-- Columns are being fixed on a grid since a press.  The layout is the one right after the press,
and as many columns would be fixed as were then, or some up to the last one on the screen. -/
structure Fixing (pressed : Grid α σ (BuiltIn α)) (g : Grid α σ (BuiltIn α)) : Prop where
  keeps : pressed.model.Keeps g.model
  fixes : ∃ count, g.pipeline.FixesColumns count
    ∧ (count = pressed.model.fixedColumns
      ∨ ∃ last, pressed.model.layout.lastShown? = some last ∧ count ≤ last)

/-- A press on the edge of the fixed columns lays the grid out from its first column on. -/
theorem fixing_perform_down (hg : g.IsStandard)
    (hrest : ∀ f ∈ g.pipeline.features, f.isDragging = false) {point : Point α} {button : Button}
    {modifiers : Modifiers} (hplain : (g.pointerEvent point button modifiers).isPlainPress = true)
    (hedge : ColumnFixation.onHandle g.model (g.pointerEvent point button modifiers) = true) :
  let pressed := (g.perform (.pointer .down point button modifiers)).grid
  pressed.Fixing pressed
    ∧ (g.model.scrollTo 0 g.model.viewport.scrollTop).Keeps pressed.model
  := by
  intro pressed
  have hattached : fixingIndex < g.pipeline.attachedCount := hg.lt_attachedCount (by decide)
  obtain ⟨hpipeline, hmodel⟩ := g.perform_pointer_eq .down point button modifiers
  obtain ⟨hfixes, hdown⟩ := Pipeline.fixesColumns_dispatch_down hg.names hattached hrest hplain
    hedge g.now
  rw [hdown] at hmodel
  have hkeeps : (g.model.scrollTo 0 g.model.viewport.scrollTop).Keeps pressed.model :=
    (ColumnFixation.keeps_showBar _ _).trans (.of_still_eq hmodel)
  refine ⟨⟨⟨rfl, rfl⟩, _, hpipeline ▸ hfixes, .inl ?_⟩, hkeeps⟩
  exact (congrArg Frame.fixedColumns hkeeps.frame_eq).symm

/-- Drags and ticks leave the layout as it is. -/
theorem Fixing.perform (h : pressed.Fixing g) {c : Call α σ} (hc : c.isBetween = true) :
  pressed.Fixing (g.perform c).grid
  := by
  obtain ⟨count, hfixes, hcount⟩ := h.fixes
  cases c with
  | setClock now => exact ⟨h.keeps, count, hfixes, hcount⟩
  | tick now =>
    obtain ⟨hpipeline, hmodel⟩ := g.perform_tick_eq now
    obtain ⟨hticked, hsame⟩ := hfixes.tick g.model now
    rw [hsame] at hmodel
    exact ⟨h.keeps.trans (.of_still_eq hmodel), count, hpipeline ▸ hticked, hcount⟩
  | pointer kind point button modifiers =>
    cases kind with
    | drag =>
      obtain ⟨hpipeline, hmodel⟩ := g.perform_pointer_eq .drag point button modifiers
      obtain ⟨hdragged, bar, hdrag⟩ := hfixes.dispatch_drag g.model
        (g.pointerEvent point button modifiers) g.now
      rw [hdrag] at hmodel
      have hkeeps := (ColumnFixation.keeps_showBar g.model bar).trans (.of_still_eq hmodel)
      refine ⟨h.keeps.trans hkeeps, _, hpipeline ▸ hdragged, ?_⟩
      cases htarget : ColumnFixation.target? g.model
          (g.pointerEvent point button modifiers).point.x with
      | none => exact hcount
      | some count' =>
        right
        have hlayout := congrArg (fun f => f.layout) h.keeps.frame_eq
        change g.model.layout = pressed.model.layout at hlayout
        rw [← hlayout]
        apply ColumnFixation.le_lastShown?_of_target? htarget
    | _ => cases hc
  | _ => cases hc

theorem Fixing.run (h : pressed.Fixing g) {moves : List (Call α σ)}
    (hmoves : ∀ c ∈ moves, c.isBetween = true) :
  pressed.Fixing (g.run moves)
  := by
  apply List.foldlRecOn moves _ h
  intro g h c hc
  apply h.perform (hmoves c hc)

/-- A release fixes some columns and leaves one on the screen that scrolls, if there was one. -/
theorem Fixing.leavesScrolling_perform_up {g pressed : Grid Rat σ (BuiltIn Rat)}
    (h : pressed.Fixing g) (hm : pressed.model.IsCoherent)
    (hwidths : pressed.model.columns.HasWidths) (hv : pressed.model.viewport.scrollLeft = 0)
    {column : PlacedColumn Rat} (hcolumn : column ∈ pressed.model.layout.columns) {i : Nat}
    (hslot : column.slot = .shown i) (hfixed : pressed.model.fixedColumns ≤ i) (point : Point Rat)
    (button : Button) (modifiers : Modifiers) :
  let released := (g.perform (.pointer .up point button modifiers)).grid
  released.model.toFrame.LeavesScrolling
    ∧ released.model.columns.shown = pressed.model.columns.shown
  := by
  intro released
  obtain ⟨count, hfixes, hcount⟩ := h.fixes
  obtain ⟨last, hlast, hbehind⟩ : ∃ last, pressed.model.layout.lastShown? = some last
      ∧ count ≤ last := by
    obtain rfl | hcount := hcount
    · obtain ⟨last, hlast, -⟩ := Layout.exists_lastShown? hcolumn hslot
      refine ⟨last, hlast, le_trans hfixed ?_⟩
      rw [hm.layout_eq] at hlast hcolumn
      apply Layout.le_lastShown? hlast hcolumn hslot
    · exact hcount
  obtain ⟨-, hmodel⟩ := g.perform_pointer_eq .up point button modifiers
  rw [hfixes.dispatch_up] at hmodel
  let m : Model Rat σ := ColumnFixation.showBar g.model none
  have hkeeps : pressed.model.Keeps m := h.keeps.trans (ColumnFixation.keeps_showBar g.model none)
  have hframe := hkeeps.frame_eq
  have hleaves : (m.setFixedColumns count).toFrame.LeavesScrolling := by
    have hlayout : m.layout = pressed.model.layout := congrArg (fun f => f.layout) hframe
    have hviewport : m.viewport = pressed.model.viewport := congrArg (fun f => f.viewport) hframe
    have hdescriptors : m.columns.column? = pressed.model.columns.column? :=
      congrArg (fun f => f.columns.column?) hframe
    apply Model.leavesScrolling_setFixedColumns (hkeeps.isCoherent hm)
      (hwidths.congr hdescriptors) _ _ hslot _ _ hbehind
    · rw [hviewport, hv]
    · rw [hlayout]
      exact hcolumn
    · apply le_trans (le_of_eq (congrArg Frame.fixedColumns hframe)) hfixed
    · rw [hlayout, hlast]
  have hreleased := Model.Keeps.of_still_eq hmodel
  constructor
  · apply Frame.leavesScrolling_silent_iff.mp
    rw [hreleased.frame_eq]
    apply Frame.leavesScrolling_silent_iff.mpr hleaves
  · have hshown := congrArg (fun f => f.columns.shown) hreleased.frame_eq
    have hsame : (m.setFixedColumns count).columns.shown = m.columns.shown := by
      rw [Model.columns_setFixedColumns]
    apply hshown.trans (hsame.trans (congrArg (fun f => f.columns.shown) hframe))

/-- Fixing columns always leaves something to scroll.  When a column that scrolls is on the screen
right after a press on the edge of the fixed columns, then whatever drags and ticks follow, the
release fixes the first of the shown columns, keeps their order, and leaves one on the screen that
scrolls, with none scrolled out. -/
theorem leavesScrolling_of_press {g : Grid Rat σ (BuiltIn Rat)} (hg : g.IsStandard)
    (hrest : ∀ f ∈ g.pipeline.features, f.isDragging = false)
    (hwidths : g.model.columns.HasWidths) {point : Point Rat} {button : Button}
    {modifiers : Modifiers} (hplain : (g.pointerEvent point button modifiers).isPlainPress = true)
    (hedge : ColumnFixation.onHandle g.model (g.pointerEvent point button modifiers) = true)
    {moves : List (Call Rat σ)} (hmoves : ∀ c ∈ moves, c.isBetween = true) (point' : Point Rat)
    (button' : Button) (modifiers' : Modifiers) :
  let pressed := (g.perform (.pointer .down point button modifiers)).grid
  let released := ((pressed.run moves).perform (.pointer .up point' button' modifiers')).grid
  (∃ column ∈ pressed.model.layout.columns, ∃ i, column.slot = .shown i
      ∧ pressed.model.fixedColumns ≤ i) →
    released.model.toFrame.LeavesScrolling
      ∧ released.model.columns.shown = g.model.columns.shown
  := by
  rintro pressed released ⟨column, hcolumn, i, hslot, hfixed⟩
  obtain ⟨hfixing, hkeeps⟩ := fixing_perform_down hg hrest hplain hedge
  have hm : pressed.model.IsCoherent := hkeeps.isCoherent (Model.isCoherent_relayout _)
  have hviewport := congrArg (fun f => f.viewport) hkeeps.frame_eq
  have hdescriptors : pressed.model.columns.column? = g.model.columns.column? :=
    congrArg (fun f => f.columns.column?) hkeeps.frame_eq
  have hv : pressed.model.viewport.scrollLeft = 0 := by
    change pressed.model.viewport = _ at hviewport
    rw [hviewport]
    change min (min 0 _) _ = 0
    rw [Nat.zero_min, Nat.zero_min]
  obtain ⟨hleaves, hshown⟩ := (hfixing.run hmoves).leavesScrolling_perform_up hm
    (hwidths.congr hdescriptors) hv hcolumn hslot hfixed point' button' modifiers'
  exact ⟨hleaves, hshown.trans (congrArg (fun f => f.columns.shown) hkeeps.frame_eq)⟩

/-- The first of six columns is fixed and two are scrolled out.  The edge is dragged beyond all
columns, and up to the last one on the screen, of which only a part can be seen, they are fixed. -/
theorem leavesScrolling_of_press_table :
  let g : Grid Rat Table (BuiltIn Rat) :=
    (ofPipeline (Table.generate 6 6 fun x y => .text (toString (x + y)))
      (ColumnSchema.ofNames ["a", "b", "c", "d", "e", "f"]) Config.default
      (.ofFeatures BuiltIn.all)).run [.resizeViewport 290 200, .setFixedColumns 1, .scrollTo 2 0]
  let e := g.pointerEvent ⟨139, 5⟩ .primary .none
  let pressed := (g.perform (.pointer .down ⟨139, 5⟩ .primary .none)).grid
  let moves : List (Call Rat Table) := [.pointer .drag ⟨180, 5⟩ .primary .none, .tick 1,
    .pointer .drag ⟨400, 5⟩ .primary .none]
  let released := ((pressed.run moves).perform (.pointer .up ⟨400, 5⟩ .primary .none)).grid
  g.IsStandard
    ∧ (∀ f ∈ g.pipeline.features, f.isDragging = false)
    ∧ g.model.columns.HasWidths ∧ e.isPlainPress = true
    ∧ ColumnFixation.onHandle g.model e = true ∧ (∀ c ∈ moves, c.isBetween = true)
    ∧ pressed.model.layout.columns.map (fun column => (column.slot, column.left))
      = [(.rowHandle, 0), (.shown 0, 40), (.shown 1, 140), (.shown 2, 240)]
    ∧ pressed.model.fixedColumns = 1
    ∧ released.model.config.fixedColumns = 2
    ∧ released.model.toFrame.LeavesScrolling
    ∧ released.model.columns.shown = g.model.columns.shown
  := by
  intro g e pressed moves released
  have hg : g.IsStandard :=
    .perform _ (.perform _ (.perform _ (.new _ _ _ Pipeline.ofNames_defaultFeatures)))
  have hrest : ∀ f ∈ g.pipeline.features, f.isDragging = false := by
    have hall : (g.pipeline.features.all fun f => !f.isDragging) = true := by
      simp only [g]
      cbv
    intro f hf
    simpa using List.all_eq_true.mp hall f hf
  have hwidths : g.model.columns.HasWidths := by
    have hcolumns : g.model.columns.column? =
        (Columns.ofSchema (ColumnSchema.ofNames ["a", "b", "c", "d", "e", "f"])
          (Config.default : Config Rat)).column? := by
      simp only [g]
      cbv
    apply (Columns.hasPositiveWidths_ofSchema_default _).hasWidths.congr hcolumns
  have hplain : e.isPlainPress = true := rfl
  have hedge : ColumnFixation.onHandle g.model e = true := by
    simp only [g, e]
    cbv
  have hmoves : ∀ c ∈ moves, c.isBetween = true := by decide
  have hcolumns : pressed.model.layout.columns.map (fun column => (column.slot, column.left))
      = [(.rowHandle, 0), (.shown 0, 40), (.shown 1, 140), (.shown 2, 240)] := by
    simp only [g, pressed]
    cbv
  have hfixed : pressed.model.fixedColumns = 1 := by
    simp only [g, pressed]
    cbv
  have hreleased : released.model.config.fixedColumns = 2 := by
    simp only [g, pressed, moves, released]
    cbv
  obtain ⟨column, hcolumn, hplace⟩ : ∃ column ∈ pressed.model.layout.columns,
      (column.slot, column.left) = (.shown 2, 240) := by
    apply List.mem_map.mp
    rw [hcolumns]
    decide
  have hscrolls : ∃ column ∈ pressed.model.layout.columns, ∃ i, column.slot = .shown i
      ∧ pressed.model.fixedColumns ≤ i := by
    refine ⟨column, hcolumn, 2, (Prod.mk.inj hplace).1, ?_⟩
    rw [hfixed]
    decide
  exact ⟨hg, hrest, hwidths, hplain, hedge, hmoves, hcolumns, hfixed, hreleased,
    leavesScrolling_of_press hg hrest hwidths hplain hedge hmoves ⟨400, 5⟩ .primary .none hscrolls⟩

end Grid

end DataGrid
