import DataGrid.Proofs.Feature.Arrows
import DataGrid.Proofs.Grid.CellDrag
import DataGrid.Proofs.Pipeline.Visits

/-!
# Arrow keys in a grid

Whatever feature stops an arrow key steps on to a cell with it, and all that becomes of the grid is
what that feature makes of it: the cell is brought into view with the least scrolling
(`Grid.arrow_scrolls_least`).
-/

namespace DataGrid

/-! ### In a pipeline -/

namespace Pipeline

variable {α σ : Type} [Pixel α] [DataSource σ] {p : Pipeline (BuiltIn α)} {m : Model α σ}
  {now : Float} {e : KeyEvent} {x : Visit (BuiltIn α) (Model α σ)}

/-- A feature that stops an arrow key steps on with it, and nothing else has happened before or
happens then. -/
theorem exists_key?_of_stop (harrow : (CellSelection.arrow? e.key).isSome)
    (hx : x ∈ p.visits m now (Input.key .down e : Input α))
    (hstop : (x.reply (Input.key .down e : Input α) now).result = .ok .stop) :
  ∃ s s' m', p.features[x.index]? = some (.cellSelection s)
    ∧ s.key? e m = some (s', m')
    ∧ p.dispatch m now (Input.key .down e : Input α)
      = ⟨.ok (), { p with features := p.features.set x.index (.cellSelection s') }, m'⟩
  := by
  have hidle (f : BuiltIn α) (t : GridTurn α σ)
      (hpass : (f.handle (.key .down e) t).result = .ok .pass) :
      f.handle (.key .down e) t = ⟨.ok .pass, f, t⟩ := by
    obtain hpassed | ⟨_, _, _, -, -, hstopped⟩ := f.handle_arrow harrow t
    · exact hpassed
    · cases (congrArg (fun r => r.result) hstopped).symm.trans hpass
  obtain ⟨hp, hm⟩ := eq_of_mem_visitsFrom hidle (Nat.le_refl _) hx
  have hcalled := (p.offers_dispatch m now (Input.key .down e : Input α)).called hx
  have hdispatch := dispatch_eq_outcome hx (by rw [hstop]; rintro ⟨⟩)
  rw [hp] at hcalled
  obtain hpassed | ⟨s, s', m', hs, hkey, hstopped⟩ :=
    x.feature.handle_arrow harrow (p.turn m x.index now)
  · rw [Visit.reply, hp, hm] at hstop
    cases (congrArg (fun r => r.result) hpassed).symm.trans hstop
  · refine ⟨s, s', m', hs ▸ hcalled, hkey, ?_⟩
    have hreply : x.reply (Input.key .down e : Input α) now
        = ⟨.ok .stop, .cellSelection s', { p.turn m x.index now with model := m' }⟩ := by
      rw [Visit.reply, hp, hm]
      exact hstopped
    rw [hdispatch, Visit.outcome, hreply, hp, after_of_request_none _ _ _ rfl]
    rfl

end Pipeline

/-! ### In a grid -/

namespace Grid

variable {σ : Type} [DataSource σ] {g : Grid Rat σ (BuiltIn Rat)}

/-- In a grid that a host can come to have, with a table of which values are written without
changing the number of rows, and with columns and rows of positive size: if a feature stops an arrow
key, it is one that selects cells, and it steps on to a cell with the least scrolling. -/
theorem arrow_scrolls_least
    (hrows : ∀ (data : σ) (x y : Nat) (value : CellValue),
      DataSource.rowCount (DataSource.setValue data x y value) = DataSource.rowCount data)
    (hg : g.IsReachable) (hwidths : g.model.columns.ShowsWidths)
    (hheight : 0 < g.model.config.rowHeight) {e : KeyEvent}
    (harrow : (CellSelection.arrow? e.key).isSome)
    {x : Pipeline.Visit (BuiltIn Rat) (Model Rat σ)}
    (hx : x ∈ g.pipeline.visits g.model g.now (Input.key .down e : Input Rat))
    (hstop : (x.reply (Input.key .down e : Input Rat) g.now).result = .ok .stop) :
  let g' := (g.perform (.key .down e)).grid
  ∃ s s' cell m', g.pipeline.features[x.index]? = some (.cellSelection s)
    ∧ g'.pipeline.features[x.index]? = some (.cellSelection s')
    ∧ s'.focus = some cell
    ∧ CellSelection.StepsTo cell g.model s' m' ∧ g'.model.still = m'.still
    ∧ CellSelection.IsLeastScroll g.model g'.model cell
  := by
  intro g'
  have hm := hg.isCoherent hrows
  obtain ⟨s, s', m', hs, hkey, hdispatch⟩ := Pipeline.exists_key?_of_stop harrow hx hstop
  obtain ⟨cell, hsteps⟩ := CellSelection.exists_stepsTo_of_key? hm
    (hg.isAnchored _ (List.mem_of_getElem? hs)) harrow hkey
  obtain ⟨hpipeline, hstill⟩ := g.perform_key_eq .down e
  rw [hdispatch] at hpipeline hstill
  have hs' : g'.pipeline.features[x.index]? = some (.cellSelection s') := by
    obtain ⟨hlt, -⟩ := List.getElem?_eq_some_iff.mp hs
    rw [hpipeline, List.getElem?_set_self hlt]
  have hviewport : g'.model.viewport = m'.viewport := congrArg (fun m => m.viewport) hstill
  have hleast := hsteps.isLeastScroll hm hwidths hheight
  obtain ⟨selected, hselects, -⟩ := hsteps.reveals
  exact ⟨s, s', cell, m', hs, hs', hselects.focus_eq, hsteps, hstill,
    hleast.of_viewport_eq hviewport⟩

/-- A press on the second one of six columns of equal width, with part of the third one on the
screen. -/
def pressedOnSecond : Grid Rat Table (BuiltIn Rat) :=
  (ofPipeline (Table.generate 6 6 fun x y => .text (toString (x + y)))
    (ColumnSchema.ofNames ["a", "b", "c", "d", "e", "f"]) Config.default
    (.ofFeatures BuiltIn.all)).run
    [.resizeViewport 290 200, .pointer .down ⟨160, 30⟩ .primary .none]

/-- A step to the right leads to the third column, and one column has to be scrolled out for it. -/
theorem arrow_scrolls_least_pressedOnSecond :
  let g := pressedOnSecond
  let e : KeyEvent := ⟨"ArrowRight", .none⟩
  let g' := (g.perform (.key .down e)).grid
  g.IsReachable ∧ g.model.columns.ShowsWidths ∧ 0 < g.model.config.rowHeight
    ∧ (CellSelection.arrow? e.key).isSome
    ∧ (∃ x ∈ g.pipeline.visits g.model g.now (Input.key .down e : Input Rat),
      (x.reply (Input.key .down e : Input Rat) g.now).result = .ok .stop)
    ∧ g.model.viewport.scrollLeft = 0 ∧ g'.model.viewport.scrollLeft = 1
    ∧ CellSelection.IsLeastScroll g.model g'.model ⟨0, 2⟩
  := by
  intro g e g'
  have hg : g.IsReachable := .perform _ (.perform _ (.new _ _ _ Pipeline.ofNames_defaultFeatures))
  have hstart : (g.model.columns.shown.all fun id => 0 < g.model.columns.widthOf id,
      g.model.config.rowHeight, g.model.viewport.scrollLeft) = (true, 20, 0) := by
    simp only [g, pressedOnSecond]
    cbv
  simp only [Prod.mk.injEq] at hstart
  obtain ⟨hall, hrowHeight, hleft⟩ := hstart
  have hwidths : g.model.columns.ShowsWidths := by
    intro id hid
    exact of_decide_eq_true (List.all_eq_true.mp hall id hid)
  have hheight : 0 < g.model.config.rowHeight := by
    rw [hrowHeight]
    decide
  have hvisit : ((g.pipeline.visits g.model g.now (Input.key .down e : Input Rat)).map fun x =>
      (x.index, (x.reply (Input.key .down e : Input Rat) g.now).result))[cellsIndex]?
      = some (cellsIndex, .ok .stop) := by
    simp only [g, pressedOnSecond]
    cbv
  rw [List.getElem?_map, Option.map_eq_some_iff] at hvisit
  obtain ⟨x, hx, hstop⟩ := hvisit
  obtain ⟨hindex, hstop⟩ := Prod.mk.inj hstop
  have hx := List.mem_of_getElem? hx
  have hend : (g'.pipeline.features[cellsIndex]?, g'.model.viewport.scrollLeft)
      = (some (.cellSelection ⟨some ⟨0, 2⟩, some ⟨0, 2⟩, true, some ⟨160, 30⟩, none⟩), 1) := by
    simp only [g', g, pressedOnSecond]
    cbv
  obtain ⟨hfeature, hleft'⟩ := Prod.mk.inj hend
  obtain ⟨s, s', cell, m', -, hs', hcell, -, -, hleast⟩ := arrow_scrolls_least
    Table.rowCount_setValue hg hwidths hheight (e := e) rfl hx hstop
  rw [hindex, hfeature] at hs'
  obtain ⟨⟩ := hs'
  obtain rfl := Option.some.inj hcell
  exact ⟨hg, hwidths, hheight, rfl, ⟨x, hx, hstop⟩, hleft, hleft', hleast⟩

end Grid

end DataGrid
