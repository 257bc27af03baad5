import DataGrid.Proofs.Feature.CellDrag
import DataGrid.Proofs.Grid.Standard

/-!
# Drags over cells of a grid

While cells are being dragged over, the default features leave every drag to the one that selects
cells, and that one has a cell to reach from (`Grid.DragsCells.exists_anchor`).  A drag is to end at
the cell under the pointer.  The event tells which cell that was before the grid was scrolled, so it
does if the grid is not scrolled or the pointer is inside the viewport.  A pointer beyond it that
comes in over a cell is taken to be over this cell still (`Grid.drag_follows`).
-/

namespace DataGrid

variable {α σ : Type}

namespace Grid

section Standard

variable [Pixel α] [DataSource σ] {g : Grid α σ (BuiltIn α)}

theorem keeps_isAnchored :
  Keeps (α := α) (σ := σ) fun (p : Pipeline (BuiltIn α)) _ => ∀ f ∈ p.features, f.IsAnchored
  := by
  constructor
  case turns =>
    constructor
    case handle =>
      intro p m i f input now h hf g hg
      rw [Pipeline.features_after] at hg
      obtain hg | rfl := List.mem_or_eq_of_mem_set hg
      · apply h g hg
      · apply (h f (List.mem_of_getElem? hf)).handle
    case fire =>
      intro p m i f token now h hf g hg
      rw [Pipeline.features_after] at hg
      obtain hg | rfl := List.mem_or_eq_of_mem_set hg
      · apply h g hg
      · apply (h f (List.mem_of_getElem? hf)).fire
    case reattach =>
      intro p m h
      apply h
    case takeDue =>
      intro p m now h
      apply h
  case announce =>
    intro p m h
    apply h
  case takeNotices =>
    intro p m h
    apply h

omit [Pixel α] in
theorem isAnchored_ofNames {names : List String} {p : Pipeline (BuiltIn α)}
    (hp : Pipeline.ofNames names = .ok p) :
  ∀ f ∈ p.features, f.IsAnchored
  := fun _ hf => BuiltIn.isAnchored_of_mem_all (Pipeline.mem_all_of_ofNames hp hf)

theorem isAnchored_perform (c : Call α σ) (h : ∀ f ∈ g.pipeline.features, f.IsAnchored) :
  ∀ f ∈ (g.perform c).grid.pipeline.features, f.IsAnchored
  := by
  apply keeps_isAnchored.perform
  · intro c f p m _ hp
    apply hp
  · intro data schema p m hp
    apply hp
  · intro x y value p m hp
    apply hp
  · apply h

theorem IsStandard.isAnchored (hg : g.IsStandard) :
  ∀ f ∈ g.pipeline.features, f.IsAnchored
  := by
  induction hg with
  | new data schema config hp => apply isAnchored_ofNames hp
  | perform c _ ih => apply isAnchored_perform c ih
  | listen notifier _ ih => apply ih
  | edit m hm _ ih => apply ih

theorem IsReachable.isAnchored (hg : g.IsReachable) :
  ∀ f ∈ g.pipeline.features, f.IsAnchored
  := by
  induction hg with
  | new data schema config hp => apply isAnchored_ofNames hp
  | perform c _ ih => apply isAnchored_perform c ih
  | listen notifier _ ih => apply ih
  | edit m hm _ ih => apply ih

/-- Cells are being dragged over and nothing else is being dragged, and every feature sees what
comes. -/
structure DragsCells (g : Grid α σ (BuiltIn α)) (s : CellSelection α) : Prop where
  mem : .cellSelection s ∈ g.pipeline.features
  dragging : s.dragging = true
  rest : ∀ f ∈ g.pipeline.features, f.name ≠ "cell_selection" →
    f.isDragging = false ∧ f.isExtending = false
  attached : g.pipeline.detachedAt = none

namespace DragsCells

variable {s : CellSelection α}

theorem exists_anchor (h : g.DragsCells s) (hg : g.IsStandard) :
  ∃ anchor, s.anchor = some anchor
  := hg.isAnchored _ h.mem (.inl h.dragging)

theorem isLedBy (h : g.DragsCells s) (hg : g.IsStandard) :
  g.pipeline.IsLedBy cellsIndex (.cellSelection s)
  := by
  obtain ⟨c, hc⟩ := Pipeline.exists_cellSelection hg.names
  obtain ⟨i, hi⟩ := List.mem_iff_getElem?.mp h.mem
  obtain rfl := Pipeline.index_eq_of_name_eq hg.names hi hc rfl
  constructor
  case names => apply hg.names
  case own => apply hi
  case attached =>
    apply Pipeline.lt_attachedCount_of_names hg.names (.inl h.attached) (Nat.le_refl _)
    decide
  case rest =>
    intro j f hj hf
    apply h.rest f (List.mem_of_getElem? hf)
    apply Pipeline.name_ne_of_ne hg.names hf rfl hj

/-- A drag is left to the feature that selects cells. -/
theorem drags (h : g.DragsCells s) (hg : g.IsStandard) {anchor : CellPlace}
    (hs : s.anchor = some anchor) (point : Point α) (button : Button) (modifiers : Modifiers) :
  CellSelection.Drags s anchor (g.pointerEvent point button modifiers) g.model
    (g.perform (.pointer .drag point button modifiers)).grid.model
  := by
  obtain ⟨f', t', hreply, hrequest, hdrags⟩ := CellSelection.exists_handle_drag h.dragging hs
    (g.pointerEvent point button modifiers) (g.pipeline.turn g.model cellsIndex g.now)
  have hfor := (h.isLedBy hg).isFor_drag g.model g.now (g.pointerEvent point button modifiers)
  rw [hreply] at hfor
  have hmodel := (hfor hrequest).dispatch.model_eq
  apply hdrags.of_still_eq
  rw [← hmodel]
  apply (g.perform_pointer_eq .drag point button modifiers).2

end DragsCells

end Standard

/-- The latest range reaches, after a drag, from where the press was to the cell at which the drag
is to end, if the grid is not scrolled or scrolling leaves the same cell under the pointer, or if
the pointer is over the same data cell as before, or again over none.  If it comes in over a data
cell, the range does so exactly if that is still the cell there. -/
theorem drag_follows [Pixel α] [DataSource σ] {g : Grid α σ (BuiltIn α)} {s : CellSelection α}
    (hg : g.IsStandard) (hdrags : g.DragsCells s) (point : Point α) (button : Button)
    (modifiers : Modifiers) :
  let g' := (g.perform (.pointer .drag point button modifiers)).grid
  ∃ anchor, s.anchor = some anchor
    ∧ (g.model.viewport.scrolledApart g'.model.viewport = false →
      CellSelection.Follows anchor g'.model point)
    ∧ (CellSelection.IsSteady g.model point → CellSelection.Follows anchor g'.model point)
    ∧ (CellSelection.under? g'.model point = CellSelection.under? g.model point →
      CellSelection.Follows anchor g'.model point)
    ∧ ∀ {old}, CellSelection.under? g.model point = some old →
      (CellSelection.Follows anchor g'.model point
        ↔ ∀ cell, CellSelection.aim? g'.model point = some cell → cell = old)
  := by
  intro g'
  obtain ⟨anchor, hanchor⟩ := hdrags.exists_anchor hg
  have hdrags' := hdrags.drags hg hanchor point button modifiers
  refine ⟨anchor, hanchor, ?_, ?_, ?_, ?_⟩
  · apply hdrags'.follows_of_not_scrolled rfl
  · apply hdrags'.follows_of_isSteady rfl
  · apply hdrags'.follows rfl
  · intro old hold
    apply hdrags'.follows_iff rfl hold

/-- A drag inside the viewport ends at the cell under the pointer, wherever the grid is scrolled
to. -/
theorem follows_of_inside [DataSource σ] {g : Grid Rat σ (BuiltIn Rat)} {s : CellSelection Rat}
    (hg : g.IsStandard) (hdrags : g.DragsCells s) {anchor : CellPlace}
    (hs : s.anchor = some anchor) (hm : g.model.IsCoherent) (hwidths : g.model.columns.HasWidths)
    (hheader : 0 ≤ g.model.config.headerRowHeight) (hheight : 0 ≤ g.model.config.rowHeight)
    {point : Point Rat} (hx : point.x < g.model.viewport.width)
    (hy : point.y < g.model.viewport.height) (button : Button) (modifiers : Modifiers) :
  CellSelection.Follows anchor
    (g.perform (.pointer .drag point button modifiers)).grid.model point
  := by
  have hsteady := CellSelection.isSteady_of_inside hm hwidths hheader hheight hx hy
  apply (hdrags.drags hg hs point button modifiers).follows_of_isSteady rfl hsteady

/-- A press on the first cell of six columns of equal width, with part of the third one on the
screen. -/
def pressedOnFirst : Grid Rat Table (BuiltIn Rat) :=
  (ofPipeline (Table.generate 6 6 fun x y => .text (toString (x + y)))
    (ColumnSchema.ofNames ["a", "b", "c", "d", "e", "f"]) Config.default
    (.ofFeatures BuiltIn.all)).run
    [.resizeViewport 290 200, .pointer .down ⟨60, 30⟩ .primary .none]

/-- What the press leaves behind. -/
def selectsFromFirst : CellSelection Rat := ⟨some ⟨0, 0⟩, some ⟨0, 0⟩, true, some ⟨60, 30⟩, none⟩

theorem isStandard_pressedOnFirst : pressedOnFirst.IsStandard
  := by
  exact .perform _ (.perform _ (.new _ _ _ Pipeline.ofNames_defaultFeatures))

theorem dragsCells_pressedOnFirst : pressedOnFirst.DragsCells selectsFromFirst
  := by
  have hpipeline : (pressedOnFirst.pipeline.features[cellsIndex]?,
      pressedOnFirst.pipeline.features.all fun f =>
        f.name = "cell_selection" || (!f.isDragging && !f.isExtending),
      pressedOnFirst.pipeline.detachedAt)
      = (some (.cellSelection selectsFromFirst), true, none) := by
    simp only [pressedOnFirst, selectsFromFirst]
    cbv
  simp only [Prod.mk.injEq] at hpipeline
  obtain ⟨hown, hall, hattached⟩ := hpipeline
  constructor
  case mem => apply List.mem_of_getElem? hown
  case dragging => rfl
  case rest =>
    intro f hf hname
    simpa [hname] using List.all_eq_true.mp hall f hf
  case attached => apply hattached

/-- Scrolling would move nothing under a pointer over the third column inside the viewport. -/
theorem isSteady_pressedOnFirst : CellSelection.IsSteady pressedOnFirst.model ⟨270, 30⟩
  := by
  have hm : pressedOnFirst.model.IsCoherent := by
    apply IsReachable.isCoherent Table.rowCount_setValue
    exact .perform _ (.perform _ (.new _ _ _ Pipeline.ofNames_defaultFeatures))
  have hcolumns : pressedOnFirst.model.columns.column? =
      (Columns.ofSchema (ColumnSchema.ofNames ["a", "b", "c", "d", "e", "f"])
        (Config.default : Config Rat)).column? := by
    simp only [pressedOnFirst]
    cbv
  have hwidths : pressedOnFirst.model.columns.HasWidths := by
    intro id d hd
    rw [hcolumns] at hd
    apply (Columns.hasPositiveWidths_ofSchema_default _).hasWidths id d hd
  have hframe : (pressedOnFirst.model.config, pressedOnFirst.model.viewport.width,
      pressedOnFirst.model.viewport.height) = (Config.default, 290, 200) := by
    simp only [pressedOnFirst]
    cbv
  simp only [Prod.mk.injEq] at hframe
  obtain ⟨hconfig, hwidth, hheight⟩ := hframe
  apply CellSelection.isSteady_of_inside hm hwidths
  · rw [hconfig]
    decide
  · rw [hconfig]
    decide
  · rw [hwidth]
    decide
  · rw [hheight]
    decide

/-- One drag ends inside the viewport, and one beyond it over the part of the third column that
cannot be seen. -/
theorem drag_follows_pressedOnFirst :
  let g := pressedOnFirst
  let inside := (g.perform (.pointer .drag ⟨270, 30⟩ .primary .none)).grid
  let beyond := (g.perform (.pointer .drag ⟨300, 30⟩ .primary .none)).grid
  g.IsStandard ∧ g.DragsCells selectsFromFirst ∧ selectsFromFirst.anchor = some ⟨0, 0⟩
    ∧ CellSelection.IsSteady g.model ⟨270, 30⟩
    ∧ CellSelection.Follows ⟨0, 0⟩ inside.model ⟨270, 30⟩
    ∧ CellSelection.under? g.model ⟨300, 30⟩ = some ⟨0, 2⟩
    ∧ (CellSelection.Follows ⟨0, 0⟩ beyond.model ⟨300, 30⟩
      ↔ ∀ cell, CellSelection.aim? beyond.model ⟨300, 30⟩ = some cell → cell = ⟨0, 2⟩)
  := by
  intro g inside beyond
  have hunder : CellSelection.under? g.model ⟨300, 30⟩ = some ⟨0, 2⟩ := by
    simp only [g, pressedOnFirst]
    cbv
  obtain ⟨_, ⟨⟩, -, hinside, -, -⟩ := drag_follows isStandard_pressedOnFirst
    dragsCells_pressedOnFirst ⟨270, 30⟩ .primary .none
  obtain ⟨_, ⟨⟩, -, -, -, hbeyond⟩ := drag_follows isStandard_pressedOnFirst
    dragsCells_pressedOnFirst ⟨300, 30⟩ .primary .none
  exact ⟨isStandard_pressedOnFirst, dragsCells_pressedOnFirst, rfl, isSteady_pressedOnFirst,
    hinside isSteady_pressedOnFirst, hunder, hbeyond hunder⟩

/-- The pointer comes in beyond the viewport, over the third column.  After the step to the right it
is over the fourth one, but the third one is where the range ends. -/
theorem dragged_to_old_cell :
  let g := pressedOnFirst
  let g' := (g.perform (.pointer .drag ⟨300, 30⟩ .primary .none)).grid
  g.IsStandard ∧ g.DragsCells selectsFromFirst ∧ selectsFromFirst.anchor = some ⟨0, 0⟩
    ∧ g'.model.viewport.scrollLeft = 1 ∧ CellSelection.aim? g'.model ⟨300, 30⟩ = some ⟨0, 3⟩
    ∧ g'.model.selection.last? .cells = some (.cells 0 0 0 2)
    ∧ ¬ CellSelection.Follows ⟨0, 0⟩ g'.model ⟨300, 30⟩
  := by
  intro g g'
  have hdrags := dragsCells_pressedOnFirst.drags isStandard_pressedOnFirst rfl ⟨300, 30⟩ .primary
    .none
  have hg : (CellSelection.dragDirection g.model ⟨300, 30⟩, CellSelection.under? g.model ⟨300, 30⟩,
      (g.model.scrollBy? 1 0).map fun m =>
        (m.viewport.scrollLeft, CellSelection.aim? m ⟨300, 30⟩))
      = ((1, 0), some ⟨0, 2⟩, some (1, some ⟨0, 3⟩)) := by
    simp only [g, pressedOnFirst]
    cbv
  simp only [Prod.mk.injEq] at hg
  obtain ⟨hdirection, hunder, hscrolls⟩ := hg
  obtain ⟨m, hm, hscrolled⟩ := Option.map_eq_some_iff.mp hscrolls
  obtain ⟨hleft, haims⟩ := Prod.mk.inj hscrolled
  have hshows : CellSelection.Shows m g'.model := by
    apply hdrags.starts rfl
    · change CellSelection.dragDirection g.model ⟨300, 30⟩ ≠ (0, 0)
      rw [hdirection]
      decide
    · change g.model.scrollBy? (CellSelection.dragDirection g.model ⟨300, 30⟩).1
        (CellSelection.dragDirection g.model ⟨300, 30⟩).2 = some m
      rw [hdirection]
      apply hm
  have hlast : g'.model.selection.last? .cells = some (.cells 0 0 0 2) :=
    hdrags.last?_of_under? rfl hunder
  have haim : CellSelection.aim? g'.model ⟨300, 30⟩ = some ⟨0, 3⟩ := hshows.aim?_eq.trans haims
  refine ⟨isStandard_pressedOnFirst, dragsCells_pressedOnFirst, rfl, ?_, haim, hlast, ?_⟩
  · rw [hshows.viewport_eq]
    apply hleft
  · intro hfollows
    cases hlast.symm.trans (hfollows _ haim)

end Grid

end DataGrid
