import DataGrid.Proofs.Feature.Advance
import DataGrid.Proofs.Feature.Names
import DataGrid.Proofs.Grid.Rules
import DataGrid.Table

/-!
# Grids stay coherent

Whatever a host does to a grid with features of this library, and whatever errors come back, the
layout of the grid belongs to its columns, settings, viewport and rows, and the grid is scrolled no
further than its limits (`Grid.layout_eq_compute_of_run`).
-/

namespace DataGrid

variable {α σ : Type} [Pixel α] [DataSource σ]

/-- Writing a value into a table neither adds rows nor takes any away. -/
theorem Table.rowCount_setValue (t : Table) (x y : Nat) (value : CellValue) :
  DataSource.rowCount (DataSource.setValue t x y value) = DataSource.rowCount t
  := Array.size_modify

/-- What a change of the model by the host does. -/
theorem Call.tracks_change? {c : Call α σ} {f : Model α σ → Model α σ} (h : c.change? = some f)
    (m : Model α σ) :
  m.Tracks (f m)
  := by
  cases c with
  | setClock | pointer | key | tick | load | setValue => cases h
  | resizeViewport width height =>
    obtain rfl := Option.some.inj h
    apply Model.tracks_resizeViewport
  | scrollTo left top =>
    obtain rfl := Option.some.inj h
    apply Model.tracks_scrollTo
  | scrollBy columns rows =>
    obtain rfl := Option.some.inj h
    apply Model.tracks_scrollBy
  | setFixedColumns count =>
    obtain rfl := Option.some.inj h
    apply Model.tracks_setFixedColumns
  | setFixedRows count =>
    obtain rfl := Option.some.inj h
    apply Model.tracks_setFixedRows
  | moveColumns start count target =>
    obtain rfl := Option.some.inj h
    apply Model.tracks_moveColumns
  | showColumns source indexes placement duplicates =>
    obtain rfl := Option.some.inj h
    apply Model.tracks_showColumns
  | hideColumns source indexes =>
    obtain rfl := Option.some.inj h
    apply Model.tracks_hideColumns
  | restore snapshot =>
    obtain rfl := Option.some.inj h
    apply Model.tracks_restore

namespace Grid

/-- What holds of a model and lasts through coherent changes is kept by the features. -/
theorem keeps_of_tracks {P : Model α σ → Prop}
    (hP : ∀ {m m' : Model α σ}, m.Tracks m' → P m → P m') :
  Keeps (φ := BuiltIn α) fun _ => P
  := by
  constructor
  · constructor
    · intro p m index f input now h _
      apply hP (f.advances_handle input (p.turn m index now)).model h
    · intro p m index f token now h _
      apply hP (f.advances_fire token (p.turn m index now)).model h
    · intro p m h
      apply h
    · intro p m now h
      apply h
  · intro p m h
    apply hP m.tracks_announce h
  · intro p m h
    apply hP m.tracks_takeNotices h

/-- A new grid is coherent. -/
theorem isCoherent_ofPipeline (data : σ) (schema : List ColumnSchema) (config : Config α)
    (p : Pipeline (BuiltIn α)) :
  (ofPipeline data schema config p).model.IsCoherent
  := by
  have hdata : (Model.ofData data schema config).IsCoherent := Model.isCoherent_relayout _
  have hnotices := (Model.tracks_takeNotices _).isCoherent hdata
  apply (Model.tracks_announce _).isCoherent hnotices

/-- A new grid with the features that its settings name is coherent. -/
theorem isCoherent_ofConfig {data : σ} {schema : List ColumnSchema} {config : Config α}
    {g : Grid α σ (BuiltIn α)} (h : ofConfig data schema config = .ok g) :
  g.model.IsCoherent
  := by
  rw [ofConfig] at h
  cases hp : Pipeline.ofNames (α := α) config.features with
  | error e =>
    rw [hp] at h
    cases h
  | ok p =>
    rw [hp] at h
    obtain rfl := Except.ok.inj h
    apply isCoherent_ofPipeline

/-- The default features build a grid. -/
theorem exists_ofConfig_default (data : σ) (schema : List ColumnSchema) {config : Config α}
    (hfeatures : config.features = defaultFeatures) :
  ∃ p : Pipeline (BuiltIn α), Pipeline.ofNames defaultFeatures = .ok p
    ∧ ofConfig data schema config = .ok (ofPipeline data schema config p)
  := by
  obtain ⟨p, hp⟩ : ∃ p : Pipeline (BuiltIn α), Pipeline.ofNames defaultFeatures = .ok p :=
    Pipeline.exists_ofNames fun _ h => h
  refine ⟨p, hp, ?_⟩
  rw [ofConfig, hfeatures, hp]
  rfl

/-- A call keeps a grid coherent if writing a value does not change the number of rows. -/
theorem isCoherent_perform
    (hrows : ∀ (data : σ) (x y : Nat) (value : CellValue),
      DataSource.rowCount (DataSource.setValue data x y value) = DataSource.rowCount data)
    {g : Grid α σ (BuiltIn α)} (c : Call α σ) (h : g.model.IsCoherent) :
  (g.perform c).grid.model.IsCoherent
  := by
  apply (keeps_of_tracks Model.Tracks.isCoherent).perform
  · intro c f _ m hc hm
    apply (Call.tracks_change? hc m).isCoherent hm
  · intro data schema _ m hm
    apply (m.tracks_load data schema).isCoherent hm
  · intro x y value _ m hm
    rw [Model.IsCoherent, Model.rowCount]
    rw [hrows]
    apply hm
  · apply h

/-- Any list of features builds a grid, and after any calls, whatever they give back, the layout of
the grid is the one that belongs to it and the scroll position is within the limits. -/
theorem layout_eq_compute_of_run
    (hrows : ∀ (data : σ) (x y : Nat) (value : CellValue),
      DataSource.rowCount (DataSource.setValue data x y value) = DataSource.rowCount data)
    (data : σ) (schema : List ColumnSchema) {config : Config α}
    (hfeatures : ∀ name ∈ config.features, name ∈ defaultFeatures) :
  ∃ g : Grid α σ (BuiltIn α), ofConfig data schema config = .ok g
    ∧ ∀ calls : List (Call α σ),
      let m := (g.run calls).model
      let limits := ScrollLimits.compute m.columns m.config m.viewport m.rowCount
      m.layout = .compute m.columns m.config m.viewport m.rowCount
        ∧ m.viewport.scrollLeft ≤ limits.left ∧ m.viewport.scrollTop ≤ limits.top
  := by
  obtain ⟨p, hp⟩ := Pipeline.exists_ofNames hfeatures
  have hg : ofConfig data schema config = .ok (ofPipeline data schema config p) := by
    rw [ofConfig, hp]
    rfl
  refine ⟨_, hg, fun calls => ?_⟩
  have h := Keeps.run (M := fun _ m => m.IsCoherent) (isCoherent_perform hrows)
    (isCoherent_ofConfig hg) calls
  exact ⟨h.layout_eq, h.left_le, h.top_le⟩

/-- A table of five columns and three rows with two features that both scroll. -/
theorem layout_eq_compute_of_run_table :
  (∀ (data : Table) (x y : Nat) (value : CellValue),
      DataSource.rowCount (DataSource.setValue data x y value) = DataSource.rowCount data)
    ∧ (∀ name ∈ ["column_moving", "cell_selection"], name ∈ defaultFeatures)
    ∧ ∃ g : Grid Rat Table (BuiltIn Rat),
      ofConfig (Table.generate 5 3 fun x y => .text (toString (x + y)))
        (ColumnSchema.ofNames ["a", "b", "c", "d", "e"])
        { Config.default with features := ["column_moving", "cell_selection"] } = .ok g
      ∧ ∀ calls : List (Call Rat Table),
        let m := (g.run calls).model
        let limits := ScrollLimits.compute m.columns m.config m.viewport m.rowCount
        m.layout = .compute m.columns m.config m.viewport m.rowCount
          ∧ m.viewport.scrollLeft ≤ limits.left ∧ m.viewport.scrollTop ≤ limits.top
  := by
  have hnames : ∀ name ∈ ["column_moving", "cell_selection"], name ∈ defaultFeatures := by
    decide
  exact ⟨Table.rowCount_setValue, hnames,
    layout_eq_compute_of_run Table.rowCount_setValue _ _ hnames⟩

end Grid

end DataGrid
