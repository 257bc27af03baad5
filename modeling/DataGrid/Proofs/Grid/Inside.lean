import Mathlib
import DataGrid.Proofs.Grid.Coherence
import DataGrid.Proofs.Grid.Settle
import DataGrid.Proofs.Model.Announcements
import DataGrid.Proofs.Pipeline.Inside

/-!
# Selections inside the table

A grid is browsed when nobody chooses which of its columns are shown.  Then its selection stays
inside the table, as long as no table is loaded that leaves out what a feature may still reach from
(`Grid.selection_isInside_of_browsing`).  Loading a table clears the selection, but not the places
where it was begun: if a smaller table is loaded, the next press with the shift key can select rows
and columns that are not there (`Grid.selects_outside_after_load`).
-/

namespace DataGrid

variable {α σ : Type} {rows columns : Nat}

/-- Whether a call neither chooses which columns are shown nor writes into the table. -/
def Call.isBrowsing : Call α σ → Bool
  | .showColumns .. | .hideColumns .. | .restore _ | .setValue .. => false
  | _ => true

/-- Whether a call puts another table into the grid. -/
def Call.isLoad : Call α σ → Bool
  | .load .. => true
  | _ => false

variable [Pixel α] [DataSource σ]

theorem Pipeline.SelectsInside.congr {p : Pipeline (BuiltIn α)} {m m' : Model α σ}
    (h : p.SelectsInside rows columns m) (hm : m'.still = m.still) :
  p.SelectsInside rows columns m'
  := by
  have hdata : m'.data = m.data := congrArg (fun m => m.data) hm
  have hframe := Model.silent_eq_of_still_eq hm
  constructor
  case names => apply h.names
  case reaches => apply h.reaches
  case spans =>
    constructor
    case rowCount_eq =>
      rw [Model.rowCount, hdata]
      apply h.spans.rowCount_eq
    case shownCount_eq =>
      apply (congrArg (fun f => f.columns.shownCount) hframe).trans
      apply h.spans.shownCount_eq
    case coherent => apply Model.isCoherent_of_still_eq hm h.spans.coherent
  case selection =>
    rw [Model.selection_eq_of_still_eq hm]
    apply h.selection

/-- What the host changes while it browses keeps the size of the table, and the selection in it. -/
theorem Call.inside_change? {c : Call α σ} {f : Model α σ → Model α σ} (hc : c.change? = some f)
    (hbrowsing : c.isBrowsing = true) {m : Model α σ} (hm : m.Spans rows columns) {R : Prop}
    (hs : m.selection.Fits rows columns R) :
  (f m).Spans rows columns ∧ (f m).selection.Fits rows columns R
  := by
  cases c with
  | setClock | pointer | key | tick | load => cases hc
  | showColumns | hideColumns | restore | setValue => cases hbrowsing
  | resizeViewport width height =>
    obtain rfl := Option.some.inj hc
    refine ⟨⟨hm.rowCount_eq, hm.shownCount_eq, ?_⟩, hs⟩
    apply (m.tracks_resizeViewport width height).isCoherent hm.coherent
  | scrollTo left top =>
    obtain rfl := Option.some.inj hc
    exact ⟨hm.act (.scroll left top), hs⟩
  | scrollBy left top =>
    obtain rfl := Option.some.inj hc
    have hscrolls := Model.Scrolls.scrollBy m left top
    refine ⟨hm.acts hscrolls, ?_⟩
    rw [hscrolls.selection_eq]
    apply hs
  | setFixedColumns count =>
    obtain rfl := Option.some.inj hc
    refine ⟨hm.act (.fixColumns count), ?_⟩
    rw [Model.selection_setFixedColumns]
    apply hs
  | setFixedRows count =>
    obtain rfl := Option.some.inj hc
    refine ⟨hm.act (.fixRows count), ?_⟩
    rw [Model.selection_setFixedRows]
    apply hs
  | moveColumns start count target =>
    obtain rfl := Option.some.inj hc
    refine ⟨hm.act (.move start count target), ?_⟩
    change ((m.moveColumns? start count target).getD m).selection.Fits rows columns R
    cases hmove : m.moveColumns? start count target with
    | none => apply hs
    | some m' => apply hm.fits_of_moveColumns? hs hmove

namespace Grid

variable {g : Grid α σ (BuiltIn α)}

/-- What features may reach from is inside the table. -/
def ReachesInside (g : Grid α σ (BuiltIn α)) : Prop :=
  ∀ f ∈ g.pipeline.features, f.ReachesInside g.model.rowCount g.model.columns.shownCount

/-- The selection is inside the table, and no feature reaches from outside. -/
def SelectsInside (g : Grid α σ (BuiltIn α)) : Prop :=
  g.pipeline.SelectsInside g.model.rowCount g.model.columns.shownCount g.model

/-! ### One call -/

/-- A call that browses keeps the table, and the selection in it. -/
theorem SelectsInside.perform (h : g.SelectsInside) {c : Call α σ} (hc : c.isBrowsing = true)
    (hload : c.isLoad = false) :
  (g.perform c).grid.SelectsInside
  := by
  suffices hkept : (g.perform c).grid.pipeline.SelectsInside g.model.rowCount
      g.model.columns.shownCount (g.perform c).grid.model by
    rw [SelectsInside, hkept.spans.rowCount_eq, hkept.spans.shownCount_eq]
    apply hkept
  cases hchange : c.change? with
  | some f =>
    obtain ⟨hp, hm⟩ := settle_eq ⟨.ok (), { g with model := f g.model }⟩
    obtain ⟨hspans, hselection⟩ := Call.inside_change? hchange hc h.spans h.selection
    rw [perform_of_change? hchange]
    change Pipeline.SelectsInside _ _ (settle _).grid.pipeline (settle _).grid.model
    rw [hp]
    apply Pipeline.SelectsInside.congr _ hm
    exact ⟨h.names, h.reaches, hspans, hselection⟩
  | none =>
    cases c with
    | setClock now => apply h
    | pointer kind point button modifiers =>
      obtain ⟨hp, hm⟩ := g.perform_pointer_eq kind point button modifiers
      rw [hp]
      apply Pipeline.SelectsInside.congr _ hm
      apply Pipeline.SelectsInside.dispatch h
      intro c hc
      apply h.spans.isInside_of_cellAt? hc
    | key kind event =>
      obtain ⟨hp, hm⟩ := settle_eq (g.offer (.key kind event))
      change Pipeline.SelectsInside _ _ (settle _).grid.pipeline (settle _).grid.model
      rw [hp]
      apply Pipeline.SelectsInside.congr _ hm
      apply Pipeline.SelectsInside.dispatch h
      trivial
    | tick now =>
      obtain ⟨hp, hm⟩ := g.perform_tick_eq now
      rw [hp]
      apply Pipeline.SelectsInside.congr _ hm
      apply Pipeline.SelectsInside.tick h
    | load data schema => cases hload
    | setValue x y value => cases hc
    | _ => cases hchange

/-- With another table nothing is selected, but features go on reaching from where they did. -/
theorem SelectsInside.load (h : g.SelectsInside) {data : σ} {schema : List ColumnSchema}
    (hreaches : (g.load data schema).ReachesInside) :
  (g.load data schema).SelectsInside
  := by
  constructor
  case names => apply h.names
  case reaches => apply hreaches
  case spans =>
    refine ⟨rfl, rfl, ?_⟩
    apply (Model.tracks_takeNotices _).isCoherent
    apply (g.model.tracks_load data schema).isCoherent h.spans.coherent
  case selection =>
    change (g.model.load data schema).selection.Fits _ _ _
    rw [Model.selection_load]
    apply Selection.Fits.empty

/-! ### Every run -/

theorem SelectsInside.run (h : g.SelectsInside) {calls : List (Call α σ)}
    (hcalls : ∀ c ∈ calls, c.isBrowsing = true)
    (hloads : ∀ n data schema, calls[n]? = some (.load data schema) →
      (g.run (calls.take (n + 1))).ReachesInside) (n : Nat) :
  (g.run (calls.take n)).SelectsInside
  := by
  induction n with
  | zero => apply h
  | succ n ih =>
    by_cases hn : n < calls.length
    case pos =>
      rw [run_take_succ g hn]
      cases hload : calls[n].isLoad with
      | false => apply ih.perform (hcalls _ (List.getElem_mem hn)) hload
      | true =>
        cases hc : calls[n] with
        | load data schema =>
          have hreaches := hloads n data schema (by rw [List.getElem?_eq_getElem hn, hc])
          rw [run_take_succ g hn, hc] at hreaches
          apply ih.load hreaches
        | _ =>
          rw [hc] at hload
          cases hload
    case neg =>
      rw [List.take_of_length_le (by omega)]
      rw [List.take_of_length_le (by omega)] at ih
      apply ih

/-- A grid of the default features is browsed: there are events of all kinds, it is scrolled,
columns move and tables are loaded, of any number of rows and columns.  If after each load what the
features may still reach from is in the table, then the selection is always inside the table. -/
theorem selection_isInside_of_browsing (data : σ) (schema : List ColumnSchema) {config : Config α}
    (hfeatures : config.features = defaultFeatures) :
  ∃ g : Grid α σ (BuiltIn α), ofConfig data schema config = .ok g
    ∧ ∀ calls : List (Call α σ), (∀ c ∈ calls, c.isBrowsing = true) →
      (∀ n data schema, calls[n]? = some (.load data schema) →
        (g.run (calls.take (n + 1))).ReachesInside) →
      ∀ n, let m := (g.run (calls.take n)).model
        m.selection.IsInside m.rowCount m.columns.shownCount
  := by
  obtain ⟨p, hp, hg⟩ := exists_ofConfig_default data schema hfeatures
  have hstart : (ofPipeline data schema config p).SelectsInside := by
    constructor
    case names => apply (Pipeline.names_ofNames hp).1
    case reaches =>
      intro f hf
      apply BuiltIn.reachesInside_of_mem_all (Pipeline.mem_all_of_ofNames hp hf)
    case spans => exact ⟨rfl, rfl, isCoherent_ofConfig hg⟩
    case selection => apply Selection.Fits.empty
  refine ⟨_, hg, ?_⟩
  intro calls hcalls hloads n
  apply (hstart.run hcalls hloads n).selection.isInside

/-- A cell is pressed, a smaller table is loaded that has a cell in the same place, and a press with
the shift key reaches on from there. -/
theorem selection_isInside_of_browsing_smaller :
  let table (n : Nat) : Table := Table.generate n n fun x y => .text (toString (x + y))
  let config : Config Rat := Config.default
  let shift : Modifiers := ⟨true, false, false, false⟩
  let calls : List (Call Rat Table) := [.pointer .down ⟨150, 50⟩ .primary .none,
    .load (table 2) (ColumnSchema.ofNames ["a", "b"]), .pointer .down ⟨70, 30⟩ .primary shift]
  config.features = defaultFeatures
    ∧ (∀ c ∈ calls, c.isBrowsing = true)
    ∧ ∃ g : Grid Rat Table (BuiltIn Rat),
      ofConfig (table 3) (ColumnSchema.ofNames ["a", "b", "c"]) config = .ok g
      ∧ (∀ n data schema, calls[n]? = some (.load data schema) →
          (g.run (calls.take (n + 1))).ReachesInside)
      ∧ (g.run calls).model.selection = ⟨[.cells 1 1 0 0]⟩
      ∧ ∀ n, let m := (g.run (calls.take n)).model
        m.selection.IsInside m.rowCount m.columns.shownCount
  := by
  intro table config shift calls
  let start : Grid Rat Table (BuiltIn Rat) := ofPipeline (table 3)
    (ColumnSchema.ofNames ["a", "b", "c"]) config (.ofFeatures BuiltIn.all)
  have hcalls : ∀ c ∈ calls, c.isBrowsing = true := by simp [calls, Call.isBrowsing]
  have hloaded : let g := start.run (calls.take 2)
      (g.pipeline.features, g.model.rowCount, g.model.columns.shownCount)
        = ([.hover, .columnFixation .idle, .rowFixation .idle, .columnResizing .idle,
          .rowSelection .idle, .columnSelection .idle, .columnMoving .idle,
          .cellSelection ⟨some ⟨1, 1⟩, some ⟨1, 1⟩, true, some ⟨150, 50⟩, none⟩, .keyPaging,
          .contextMenu .idle], 2, 2) := by
    simp only [start, calls, config, table]
    cbv
  obtain ⟨hfeatures, hloaded⟩ := Prod.mk.inj hloaded
  obtain ⟨hrows, hcolumns⟩ := Prod.mk.inj hloaded
  have hselection : (start.run calls).model.selection = ⟨[.cells 1 1 0 0]⟩ := by
    simp only [start, calls, config, table, shift]
    cbv
  have hreaches : (start.run (calls.take 2)).ReachesInside := by
    intro f hf
    rw [hfeatures] at hf
    rw [hrows, hcolumns]
    simp only [List.mem_cons, List.not_mem_nil, or_false] at hf
    obtain rfl | rfl | rfl | rfl | rfl | rfl | rfl | rfl | rfl | rfl := hf
    case inr.inr.inr.inr.inr.inr.inr.inl =>
      rintro _ ⟨⟩
      exact ⟨Nat.one_lt_two, Nat.one_lt_two⟩
    all_goals simp [BuiltIn.ReachesInside, RowSelection.idle, ColumnSelection.idle]
  have hloads : ∀ n data schema, calls[n]? = some (.load data schema) →
      (start.run (calls.take (n + 1))).ReachesInside := by
    intro n data schema hn
    obtain _ | _ | _ | n := n
    case succ.zero => apply hreaches
    all_goals cases hn
  obtain ⟨g, hg, hinside⟩ := selection_isInside_of_browsing (table 3)
    (ColumnSchema.ofNames ["a", "b", "c"]) (rfl : config.features = defaultFeatures)
  obtain rfl : start = g := Except.ok.inj hg
  exact ⟨rfl, hcalls, start, hg, hloads, hselection, hinside calls hcalls hloads⟩

/-- The last cell of a large table is pressed and a small table is loaded.  The press with the shift
key that follows selects from the cell that was there before to the first one. -/
theorem selects_outside_after_load :
  let table (n : Nat) : Table := Table.generate n n fun x y => .text (toString (x + y))
  let g : Grid Rat Table (BuiltIn Rat) := ofPipeline (table 5)
    (ColumnSchema.ofNames ["a", "b", "c", "d", "e"]) Config.default (.ofFeatures BuiltIn.all)
  let shift : Modifiers := ⟨true, false, false, false⟩
  let calls : List (Call Rat Table) := [.pointer .down ⟨470, 110⟩ .primary .none,
    .pointer .up ⟨470, 110⟩ .primary .none, .load (table 2) (ColumnSchema.ofNames ["a", "b"]),
    .pointer .down ⟨70, 30⟩ .primary shift]
  let m := (g.run calls).model
  ofConfig (table 5) (ColumnSchema.ofNames ["a", "b", "c", "d", "e"]) Config.default = .ok g
    ∧ (∀ c ∈ calls, c.isBrowsing = true)
    ∧ m.rowCount = 2 ∧ m.columns.shownCount = 2
    ∧ m.selection = ⟨[.cells 4 4 0 0]⟩
    ∧ ¬ m.selection.IsInside m.rowCount m.columns.shownCount
  := by
  intro table g shift calls m
  have hcalls : ∀ c ∈ calls, c.isBrowsing = true := by simp [calls, Call.isBrowsing]
  have hlast : (m.rowCount, m.columns.shownCount, m.selection)
      = (2, 2, ⟨[.cells 4 4 0 0]⟩) := by
    simp only [m, g, calls, shift, table]
    cbv
  obtain ⟨hrows, hlast⟩ := Prod.mk.inj hlast
  obtain ⟨hcolumns, hselection⟩ := Prod.mk.inj hlast
  refine ⟨rfl, hcalls, hrows, hcolumns, hselection, ?_⟩
  rw [hrows, hcolumns, hselection]
  intro hinside
  have hout := (hinside _ List.mem_cons_self).startRow_lt
  simp [Range.cells] at hout

end Grid

end DataGrid
