import Mathlib
import DataGrid.Proofs.Columns.Source
import DataGrid.Proofs.Feature.Deeds
import DataGrid.Proofs.Feature.Undoing
import DataGrid.Proofs.Grid.Coherence
import DataGrid.Proofs.Grid.Merges

/-!
# What cells read of the table

Whatever is done to a grid, its columns stay those of the schema that was given last
(`Model.ShowsSchema`).  So a cell reads and writes the table at the place of the entry whose name
and header its column has, unless it lies under a merged cell: then it does so where that one begins
(`Grid.cells_read_at_places`).
-/

namespace DataGrid

open ColumnSchema (place)

variable {α σ φ : Type}

/-! ### Where a cell reads -/

namespace Binding

variable [DataSource σ] {s : Scene α σ} {column : PlacedColumn α} {row : PlacedRow α}

/-- A cell takes its value from itself or from a merged cell that holds it. -/
theorem valueCell_eq_or_holds (s : Scene α σ) (column : PlacedColumn α) (row : PlacedRow α) :
  (ofPlaced s column row).valueCell = (ofPlaced s column row).dataCell
    ∨ ∃ merge : s.LaidMerge, merge.Holds (ofPlaced s column row)
      ∧ (ofPlaced s column row).valueCell = merge.cell
  := by
  cases howner : owner? s column row with
  | none =>
    apply Or.inl
    rw [valueCell_ofPlaced, howner, Option.getD_none]
  | some cell =>
    have hvalue : (ofPlaced s column row).valueCell = cell := by
      rw [valueCell_ofPlaced, howner, Option.getD_some]
    rw [owner?] at howner
    split at howner
    case isTrue hdata =>
      obtain ⟨i, hslot, hsearch⟩ := Option.bind_eq_some_iff.mp howner
      obtain ⟨step, hstep, hat⟩ := List.exists_of_findSome?_eq_some hsearch
      obtain ⟨merge, hcovers, -, rfl⟩ := exists_laidMerge_of_ownerAt? hstep hat
      have hholds : merge.Holds (ofPlaced s column row) :=
        holds_ofPlaced_iff.mpr ⟨hdata.1, i, Slot.shownIndex?_eq_some.mp hslot, hcovers⟩
      apply Or.inr ⟨merge, hholds, hvalue⟩
    case isFalse => cases howner

/-- The header of a column stands over its cells. -/
theorem value_of_header {x : Nat} {d : Column α} (hband : row.band = .header)
    (hid : column.id = .data x) (hcolumn : s.columns.column? (.data x) = some d)
    (props : Properties) :
  (ofPlaced s column row).value s props = .text d.header
  := by
  simp only [value, column?, ofPlaced, hband, hid, hcolumn]

end Binding

/-! ### Models of a schema -/

namespace Model

variable [Pixel α] [DataSource σ] {m : Model α σ} {schema : List ColumnSchema}

/-- The columns are those of a schema, and those on the screen are placed where they belong. -/
structure ShowsSchema (m : Model α σ) (schema : List ColumnSchema) : Prop where
  columns : m.columns.IsBuiltFrom schema
  placed : m.toFrame.HasPlacedColumns

theorem columns_clampFixedRows (m : Model α σ) :
  m.clampFixedRows.columns = m.columns
  := by
  rw [clampFixedRows]
  split
  · apply columns_setFixedRows
  · rfl

omit [Pixel α] [DataSource σ] in
theorem columns_selectIfNew (m : Model α σ) (s : Selection) :
  (m.selectIfNew s).columns = m.columns
  := by
  rw [selectIfNew]
  split
  · rfl
  · rfl

theorem isBuiltFrom_moveColumns (h : m.columns.IsBuiltFrom schema) (start count target : Nat) :
  ((m.moveColumns? start count target).getD m).columns.IsBuiltFrom schema
  := by
  cases hmove : m.moveColumns? start count target with
  | none => apply h
  | some m' =>
    obtain ⟨columns, hcolumns, rfl⟩ := Option.map_eq_some_iff.mp hmove
    change (Model.selectIfNew { m with columns := columns } _).columns.IsBuiltFrom schema
    rw [columns_selectIfNew]
    apply h.move? hcolumns

theorem isBuiltFrom_showColumns (h : m.columns.IsBuiltFrom schema) (source : Columns.Source)
    (indexes : List Nat) (placement : Columns.Placement) (duplicates : Bool) :
  (m.showColumns source indexes placement duplicates).columns.IsBuiltFrom schema
  := by
  change (Model.clampFixedColumns _).columns.IsBuiltFrom schema
  rw [columns_clampFixedColumns]
  apply h.showColumns

theorem isBuiltFrom_load (m : Model α σ) (data : σ) (schema : List ColumnSchema) :
  (m.load data schema).columns.IsBuiltFrom schema
  := by
  change (Model.clampFixedColumns _).clampFixedRows.columns.IsBuiltFrom schema
  rw [columns_clampFixedRows, columns_clampFixedColumns]
  apply Columns.isBuiltFrom_reset

theorem isBuiltFrom_act (h : m.columns.IsBuiltFrom schema) (d : Deed α) :
  (m.act d).columns.IsBuiltFrom schema
  := by
  cases d with
  | scroll | draw | hover | select | noteResize | askForMenu => apply h
  | resize id width =>
    rw [act, columns_setColumnWidth]
    apply h.setWidth
  | fixColumns count =>
    rw [act, columns_setFixedColumns]
    apply h
  | fixRows count =>
    rw [act, columns_setFixedRows]
    apply h
  | move start count target => apply isBuiltFrom_moveColumns h

/-- Whatever features do, the columns stay those of the schema. -/
theorem Acts.showsSchema {may : Deed α → Prop} {m' : Model α σ} (h : m.Acts may m')
    (hm : m.ShowsSchema schema) :
  m'.ShowsSchema schema
  := by
  constructor
  case columns =>
    apply h.keeps (M := fun m' => m'.columns.IsBuiltFrom schema) _ hm.columns
    intro m' d _ ih
    apply isBuiltFrom_act ih
  case placed => apply h.tracks.hasPlacedColumns hm.placed

end Model

namespace Call

variable [Pixel α] [DataSource σ]

/-- The schema of the grid after a call. -/
def schemaAfter (schema : List ColumnSchema) : Call α σ → List ColumnSchema
  | .load _ next => next
  | _ => schema

theorem isBuiltFrom_change? {schema : List ColumnSchema} {c : Call α σ}
    {f : Model α σ → Model α σ} (hc : c.change? = some f) {m : Model α σ}
    (h : m.columns.IsBuiltFrom schema) :
  (f m).columns.IsBuiltFrom schema
  := by
  cases c with
  | setClock | pointer | key | tick | load | setValue => cases hc
  | resizeViewport width height =>
    obtain rfl := Option.some.inj hc
    apply h
  | scrollTo left top =>
    obtain rfl := Option.some.inj hc
    apply h
  | scrollBy columns rows =>
    obtain rfl := Option.some.inj hc
    rw [(Model.Scrolls.scrollBy m columns rows).roams.columns_eq]
    apply h
  | setFixedColumns count =>
    obtain rfl := Option.some.inj hc
    rw [Model.columns_setFixedColumns]
    apply h
  | setFixedRows count =>
    obtain rfl := Option.some.inj hc
    rw [Model.columns_setFixedRows]
    apply h
  | moveColumns start count target =>
    obtain rfl := Option.some.inj hc
    apply Model.isBuiltFrom_moveColumns h
  | showColumns source indexes placement duplicates =>
    obtain rfl := Option.some.inj hc
    apply Model.isBuiltFrom_showColumns h
  | hideColumns source indexes =>
    obtain rfl := Option.some.inj hc
    apply Model.isBuiltFrom_showColumns h
  | restore snapshot =>
    obtain rfl := Option.some.inj hc
    apply h.restore

end Call

/-! ### Grids of a schema -/

namespace Grid

section Run

variable [Pixel α] [DataSource σ] {schema : List ColumnSchema}

theorem keeps_showsSchema (schema : List ColumnSchema) :
  Keeps (α := α) (σ := σ) fun (_ : Pipeline (BuiltIn α)) m => m.ShowsSchema schema
  := by
  constructor
  · constructor
    · intro p m index f input now h _
      apply (f.acts_handle input (p.turn m index now)).showsSchema h
    · intro p m index f token now h _
      apply (f.roams_fire token (p.turn m index now)).showsSchema h
    · intro p m h
      apply h
    · intro p m now h
      apply h
  · intro p m h
    exact ⟨h.columns, m.tracks_announce.hasPlacedColumns h.placed⟩
  · intro p m h
    exact ⟨h.columns.congr rfl rfl, m.tracks_takeNotices.hasPlacedColumns h.placed⟩

/-- A call keeps the columns those of the schema, unless it brings another one. -/
theorem showsSchema_perform {g : Grid α σ (BuiltIn α)} (h : g.model.ShowsSchema schema)
    (c : Call α σ) :
  (g.perform c).grid.model.ShowsSchema (c.schemaAfter schema)
  := by
  have hkeeps := keeps_showsSchema (α := α) (σ := σ) schema
  cases hc : c.change? with
  | some f =>
    have hschema : c.schemaAfter schema = schema := by
      cases c with
      | load => cases hc
      | _ => rfl
    rw [perform_of_change? hc, hschema]
    apply hkeeps.change
    exact ⟨Call.isBuiltFrom_change? hc h.columns, (Call.tracks_change? hc _).hasPlacedColumns h.placed⟩
  | none =>
    cases c with
    | setClock now => apply h
    | pointer kind point button modifiers => apply hkeeps.settle (hkeeps.turns.dispatch h _ _)
    | key kind event => apply hkeeps.settle (hkeeps.turns.dispatch h _ _)
    | tick now => apply hkeeps.settle (hkeeps.turns.tick h now)
    | load data next =>
      apply (keeps_showsSchema next).takeNotices (p := g.pipeline)
      exact ⟨Model.isBuiltFrom_load _ data next,
        (Model.tracks_load _ data next).hasPlacedColumns h.placed⟩
    | setValue x y value =>
      cases hset : g.setValue? x y value with
      | none =>
        simp only [Grid.perform, hset]
        apply h
      | some g' =>
        simp only [Grid.perform, hset]
        obtain ⟨column, row, rfl⟩ := eq_of_setValue? hset
        exact ⟨h.columns, h.placed⟩
    | _ => cases hc

theorem showsSchema_run {g : Grid α σ (BuiltIn α)} (h : g.model.ShowsSchema schema)
    (calls : List (Call α σ)) :
  (g.run calls).model.ShowsSchema (calls.foldl Call.schemaAfter schema)
  := by
  induction calls generalizing g schema with
  | nil => apply h
  | cons c rest ih => apply ih (showsSchema_perform h c)

theorem showsSchema_ofPipeline (data : σ) (schema : List ColumnSchema) (config : Config α)
    (p : Pipeline (BuiltIn α)) :
  (ofPipeline data schema config p).model.ShowsSchema schema
  := by
  constructor
  case columns => apply (Columns.isBuiltFrom_ofSchema schema config).congr rfl rfl
  case placed => apply (isCoherent_ofPipeline data schema config p).hasPlacedColumns

end Run

section Cells

variable [DataSource σ]

/-- A cell of the screen reads a position of the table, and whatever is written through it is
stored there. -/
structure UsesPosition (g : Grid α σ φ) (b : Binding α) (x y : Nat) : Prop where
  valueCell : b.valueCell = ⟨.data x, y, .data⟩
  value : ∀ props, b.value g.model.scene props = DataSource.value g.model.data x y
  /-- A cursor on the cell stores there. -/
  cursor : ∀ (c : Cursor α) (v : CellValue), c.binding? = some b →
    c.setValue? g.model.data v
      = some ({ c with text? := none }, DataSource.setValue g.model.data x y v)
  /-- So does the grid, at every place where it finds the cell. -/
  setValue : ∀ (slot : Slot) (i : Nat) (v : CellValue),
    Binding.ofGrid? g.model.scene slot i = some b → g.setValue? slot i v
      = some { g with model := { g.model with data := DataSource.setValue g.model.data x y v } }

theorem usesPosition_of_valueCell {g : Grid α σ φ} {b : Binding α} {x y : Nat}
    (hdata : b.isDataCell = true) (h : b.valueCell = ⟨.data x, y, .data⟩) :
  g.UsesPosition b x y
  := by
  constructor
  case valueCell => apply h
  case value => apply Binding.value_of_isDataCell hdata h
  case cursor =>
    intro c v hc
    simp only [Cursor.setValue?, hc, Option.bind_some, h]
  case setValue =>
    intro slot i v hb
    simp only [Grid.setValue?, Cursor.toGrid?, hb, Option.map_some, Cursor.ofBinding,
      Cursor.setValue?, bind, Option.bind_some, h]
    rfl

end Cells

/-- The columns and the cells of the screen are those of the entries of a schema. -/
structure UsesSchema [Pixel α] [DataSource σ] (g : Grid α σ φ) (entries : List ColumnSchema) :
    Prop where
  /-- Every column of the screen that is not a synthetic one is that of one entry. -/
  entry : ∀ column ∈ g.model.layout.columns, column.slot.shownIndex?.isSome →
    ∃! e, e ∈ entries ∧ column.id = .data (place entries e)
  /-- The column of an entry has its name and its header. -/
  column : ∀ e ∈ entries, ∃ d, g.model.columns.column? (.data (place entries e)) = some d
    ∧ d.id = .data (place entries e) ∧ d.name = e.name ∧ d.header = e.header
  /-- The header stands over the column. -/
  header : ∀ e ∈ entries, ∀ column ∈ g.model.layout.columns, column.id = .data (place entries e) →
    ∀ row ∈ g.model.layout.rows, row.band = .header → ∀ props,
      (Binding.ofPlaced g.model.scene column row).value g.model.scene props = .text e.header
  /-- The data cells of the column read and write the table in its place. -/
  own : ∀ e ∈ entries, ∀ column ∈ g.model.layout.columns, column.id = .data (place entries e) →
    ∀ row ∈ g.model.layout.rows, row.band = .data →
      let b := Binding.ofPlaced g.model.scene column row
      b.isCovered = false → g.UsesPosition b (place entries e) row.row
  /-- Those under a merged cell do so where that one begins. -/
  covered : ∀ e ∈ entries, ∀ column ∈ g.model.layout.columns,
    column.id = .data (place entries e) → ∀ row ∈ g.model.layout.rows, row.band = .data →
      let b := Binding.ofPlaced g.model.scene column row
      b.isCovered = true →
        ∃ merge : g.model.scene.LaidMerge, merge.Holds b ∧ g.UsesPosition b merge.x merge.y

/-- Cells use the table where their columns stand: after any calls, the columns are those of the
schema that was given last, and the column of an entry stands at the number of smaller indexes in
it.  That is the entry's own index exactly if none of these is left out. -/
theorem cells_read_at_places [Pixel α] [DataSource σ] (data : σ) (schema : List ColumnSchema)
    (config : Config α) (p : Pipeline (BuiltIn α)) (calls : List (Call α σ))
    (hdistinct : ((calls.foldl Call.schemaAfter schema).map (·.index)).Nodup) :
  let entries := calls.foldl Call.schemaAfter schema
  ((ofPipeline data schema config p).run calls).UsesSchema entries
    ∧ ∀ e ∈ entries, place entries e = e.index ↔ ∀ k < e.index, ∃ t ∈ entries, t.index = k
  := by
  intro entries
  have h : ((ofPipeline data schema config p).run calls).model.ShowsSchema entries :=
    showsSchema_run (showsSchema_ofPipeline data schema config p) calls
  generalize (ofPipeline data schema config p).run calls = g at h
  refine ⟨?_, fun e _ => ColumnSchema.place_eq_index_iff hdistinct⟩
  constructor
  case entry =>
    intro column hcolumn hshown
    have hplaced : column
        ∈ (Layout.compute g.model.columns g.model.config g.model.viewport 0).columns := by
      rw [h.placed.columns_eq] at hcolumn
      apply hcolumn
    obtain ⟨hnone, -⟩ | ⟨i, -, hid⟩ := Layout.place_of_mem_columns hplaced
    · rw [hnone] at hshown
      cases hshown
    · obtain ⟨e, he, hplace⟩ :=
        h.columns.exists_place_of_mem hdistinct (List.mem_of_getElem? hid)
      refine ⟨e, ⟨he, hplace⟩, ?_⟩
      rintro e' ⟨he', hplace'⟩
      apply Columns.place_injective hdistinct he' he
      apply ColumnId.data.inj (hplace'.symm.trans hplace)
  case column =>
    intro e he
    apply h.columns.exists_column hdistinct he
  case header =>
    intro e he column _ hcolumn row _ hband props
    obtain ⟨d, hd, -, -, hheader⟩ := h.columns.exists_column hdistinct he
    rw [← hheader]
    apply Binding.value_of_header hband hcolumn hd
  case own =>
    intro e _ column _ hcolumn row _ hband b hfree
    rw [Binding.isCovered, decide_eq_false_iff_not, not_not] at hfree
    apply usesPosition_of_valueCell (Binding.isDataCell_iff.mpr ⟨hband, _, hcolumn⟩)
    rw [hfree, Binding.dataCell_ofPlaced, hcolumn, hband]
  case covered =>
    intro e _ column _ hcolumn row _ hband b hcovered
    rw [Binding.isCovered, decide_eq_true_iff] at hcovered
    obtain hown | ⟨merge, hholds, hvalue⟩ :=
      Binding.valueCell_eq_or_holds g.model.scene column row
    · apply absurd hown hcovered
    · refine ⟨merge, hholds, ?_⟩
      apply usesPosition_of_valueCell (Binding.isDataCell_iff.mpr ⟨hband, _, hcolumn⟩) hvalue

/-- A table with three columns is given a schema in another order that leaves the second one out,
and a column is moved. -/
theorem cells_read_at_places_gap :
  let entries : List ColumnSchema := [.ofName 2 "C", .ofName 0 "A"]
  let table := Table.ofRows #[#[.text "a", .text "b", .text "c"]]
  let calls : List (Call Rat Table) := [.load table entries, .moveColumns 1 1 0]
  let p : Pipeline (BuiltIn Rat) := .ofFeatures []
  let g := (ofPipeline table (ColumnSchema.ofNames ["A", "B", "C"]) Config.default p).run calls
  (calls.foldl Call.schemaAfter (ColumnSchema.ofNames ["A", "B", "C"])) = entries
    ∧ (entries.map (·.index)).Nodup
    ∧ entries.map (place entries) = [1, 0]
    ∧ g.model.columns.shown = [.data 1, .data 0]
    ∧ g.UsesSchema entries
    ∧ ∀ e ∈ entries, place entries e = e.index ↔ ∀ k < e.index, ∃ t ∈ entries, t.index = k
  := by
  intro entries table calls p g
  have hdistinct : (entries.map (·.index)).Nodup := by
    decide
  refine ⟨rfl, hdistinct, by decide, ?_, cells_read_at_places table _ _ _ calls hdistinct⟩
  simp only [g, p, table, calls, entries]
  cbv

/-- Where an index is left out, the cells under a name do not read the table at the index of its
entry: the second column is that of the index 2, and it reads and writes the table at 1. -/
theorem reads_elsewhere_of_gap :
  let entries : List ColumnSchema := [.ofName 0 "A", .ofName 2 "C"]
  let table := Table.ofRows #[#[.text "a", .text "b", .text "c"]]
  let g : Grid Rat Table (BuiltIn Rat) :=
    ofPipeline table entries Config.default (Pipeline.ofFeatures [])
  (entries.map (·.index)).Nodup
    ∧ ((Binding.ofGrid? g.model.scene (.shown 1) 0).map fun b => b.value g.model.scene .empty)
      = some (.text "C")
    ∧ ((Binding.ofGrid? g.model.scene (.shown 1) 1).map fun b =>
        ((b.column? g.model.scene).map (·.name), b.row.row, b.value g.model.scene .empty))
      = some (some "C", 0, .text "b")
    ∧ DataSource.value g.model.data 2 0 = .text "c"
    ∧ (g.setValue? (.shown 1) 1 (.text "v")).map (·.model.data.rows)
      = some #[#[.text "a", .text "v", .text "c"]]
  := by
  intro entries table g
  refine ⟨by decide, ?_, ?_, rfl, ?_⟩
  · simp only [g, table, entries]
    cbv
  · simp only [g, table, entries]
    cbv
  · simp only [g, table, entries]
    cbv

end Grid

end DataGrid
