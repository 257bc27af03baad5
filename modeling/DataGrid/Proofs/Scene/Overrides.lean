import Mathlib
import DataGrid.Cursor
import DataGrid.Grid
import DataGrid.Proofs.Table.Values

/-!
# Properties of single cells

A cell of a data row can be given a property of its own.  It is kept with the row, under the name
of the cell's column, and columns are free to share a name.  So what is written through a cursor
reaches the cells of the same row whose columns have the same name, and no other cell
(`Cursor.setProperty_reaches_name`).
-/

namespace DataGrid

variable {α : Type}

/-- The name of a column, under which the rows keep properties of its cells. -/
def Columns.name? (c : Columns α) (x : ColumnId) : Option String := (c.column? x).map (·.name)

namespace Scene

variable {s : Scene α Table}

/-- The same cells over a table in which a row has other properties. -/
def withRowProperties (s : Scene α Table) (y : Nat) (p : Properties) : Scene α Table :=
  { s with data := s.data.setRowProperties y p }

@[simp]
theorem value_withRowProperties (y : Nat) (p : Properties) (x' y' : Nat) :
  DataSource.value (s.withRowProperties y p).data x' y' = DataSource.value s.data x' y'
  := by
  change (s.data.setRowProperties y p).value x' y' = s.data.value x' y'
  rw [Table.value, Table.rows_setRowProperties, Table.value]

@[simp]
theorem span_withRowProperties (y : Nat) (p : Properties) (x' y' : Nat) :
  DataSource.span (s.withRowProperties y p).data x' y' = DataSource.span s.data x' y'
  := by
  change (s.data.setRowProperties y p).span x' y' = s.data.span x' y'
  rw [Table.span, Table.merges_setRowProperties, Table.span]

@[simp]
theorem hasSpans_withRowProperties (y : Nat) (p : Properties) :
  DataSource.hasSpans (s.withRowProperties y p).data = DataSource.hasSpans s.data
  := by
  change (!(s.data.setRowProperties y p).merges.isEmpty) = !s.data.merges.isEmpty
  rw [Table.merges_setRowProperties]

end Scene

namespace Binding

variable {s : Scene α Table} {y : Nat} {p : Properties}

/-- A cell lies under the same cells whatever the properties of a row are. -/
theorem ofPlaced_withRowProperties (column : PlacedColumn α) (row : PlacedRow α) :
  ofPlaced (s.withRowProperties y p) column row = ofPlaced s column row
  := by
  have howner : ownerAt? (s.withRowProperties y p) = ownerAt? s := by
    funext i j step
    simp only [ownerAt?, Scene.span_withRowProperties]
    rfl
  rw [ofPlaced, owner?, howner, Scene.hasSpans_withRowProperties]
  rfl

theorem ofData?_withRowProperties (x' : ColumnId) (y' : Nat) (band : Band) :
  ofData? (s.withRowProperties y p) x' y' band = ofData? s x' y' band
  := by
  simp only [ofData?, ofPlaced_withRowProperties]
  rfl

/-- The properties of a row are no part of the value of a data cell. -/
theorem value_withRowProperties (b : Binding α) (props : Properties) :
  b.value (s.withRowProperties y p) props = b.value s props
  := by
  simp only [value, Scene.value_withRowProperties]
  rfl

/-- What is found at a place in the table has that place. -/
theorem place_of_ofData? {x : ColumnId} {band : Band} {b : Binding α}
    (h : ofData? s x y band = some b) :
  b.column.id = x ∧ b.row.row = y ∧ b.row.band = band
  := by
  obtain ⟨column, hcolumn, h⟩ := Option.bind_eq_some_iff.mp h
  obtain ⟨row, hrow, h⟩ := Option.bind_eq_some_iff.mp h
  obtain rfl := Option.some.inj h
  have hid := List.find?_some hcolumn
  have hplace := List.find?_some hrow
  simp only [decide_eq_true_eq, Bool.and_eq_true] at hid hplace
  exact ⟨hid, hplace.2, hplace.1⟩

end Binding

namespace Cursor

variable {s : Scene α Table} {x : ColumnId} {y : Nat} {name : String} {value : Json}

/-- Under the name of one column a row keeps a property more, and under every other name what it
kept. -/
theorem get?_withCellProperty (row : Properties) (column name other : String) (value : Json) :
  ((withCellProperty row column name value).get? other).bind Json.properties?
    = if other = column then
        some ((((row.get? column).bind Json.properties?).getD .empty).set name value)
      else (row.get? other).bind Json.properties?
  := by
  rw [withCellProperty, Properties.get?_set]
  split <;> rfl

/-- A cell that has been written to is one of a data row and of a column of the grid, and the row
keeps the property under the name of that column. -/
theorem data_of_setProperty? {c c' : Cursor α} {b : Binding α} {data : Table}
    (hc : c.binding? = some b)
    (hset : c.setProperty? s.data s.columns name value = some (c', data)) :
  ∃ column, s.columns.name? b.column.id = some column
    ∧ { s with data := data } = s.withRowProperties b.row.row
      (withCellProperty ((s.data.rowProperties? b.row.row).getD .empty) column name value)
  := by
  rw [setProperty?, hc, Option.bind_some] at hset
  split at hset
  · obtain ⟨column, hcolumn, heq⟩ := Option.map_eq_some_iff.mp hset
    obtain ⟨-, rfl⟩ := Prod.mk.inj heq
    exact ⟨column.name, by rw [Columns.name?, hcolumn]; rfl, rfl⟩
  · cases hset

/-- What a cell of a data row has of its own is kept under the name of its column. -/
theorem storedProperties?_eq {b : Binding α} (hb : b.row.band = .data) :
  b.storedProperties? s
    = (s.columns.name? b.column.id).bind fun column =>
      (s.data.rowProperties? b.row.row).bind fun row =>
        (row.get? column).bind Json.properties?
  := by
  have hrow : b.isDataRow = true := decide_eq_true hb
  rw [Binding.storedProperties?, if_pos hrow, Columns.name?, Option.bind_map]
  rfl

/-- The properties that a new cursor on a data cell finds. -/
def newProperties? (s : Scene α Table) (x : ColumnId) (y : Nat) : Option Properties :=
  (Binding.ofData? s x y .data).map fun b => ((ofBinding b none).properties b s).1

/-- The display text that a new cursor on a data cell finds. -/
def newText? (s : Scene α Table) (x : ColumnId) (y : Nat) : Option String :=
  (Binding.ofData? s x y .data).map fun b => ((ofBinding b none).text b s).1

/-- The properties that a cell has below its own ones. -/
def sharedProperties (b : Binding α) (s : Scene α Table) : Properties :=
  match b.column? s with
  | some c =>
    (s.config.cellDefaults.merge (Binding.columnProperties c)).merge (b.sectionProperties c)
  | none => s.config.cellDefaults

theorem properties_eq_merge (b : Binding α) (s : Scene α Table) :
  b.properties s none = (sharedProperties b s).merge ((b.storedProperties? s).getD .empty)
  := rfl

/-- A cell of a data row gets the new property if the row exists and the cell's column has the name
under which it is kept; any other cell has of its own what it had. -/
theorem storedProperties?_withCellProperty (s : Scene α Table) (y : Nat) (name : String)
    (value : Json) {b : Binding α} (hb : b.row.band = .data) (column : String) :
  b.storedProperties? (s.withRowProperties y
      (withCellProperty ((s.data.rowProperties? y).getD .empty) column name value))
    = if y < s.data.rows.size ∧ y = b.row.row ∧ s.columns.name? b.column.id = some column then
        some (((b.storedProperties? s).getD .empty).set name value)
      else b.storedProperties? s
  := by
  have hgetD : ∀ (row? : Option Properties) (other : String),
      ((row?.getD .empty).get? other).bind Json.properties?
        = row?.bind fun row => (row.get? other).bind Json.properties? := by
    intro row? other
    cases row? <;> rfl
  rw [storedProperties?_eq hb, storedProperties?_eq hb]
  change ((s.columns.name? b.column.id).bind fun other =>
    ((s.data.setRowProperties y _).rowProperties? b.row.row).bind _) = _
  rw [Table.rowProperties?_setRowProperties]
  cases hother : s.columns.name? b.column.id with
  | none => simp
  | some other =>
    rw [Option.bind_some, Option.bind_some]
    by_cases hrow : y < s.data.rows.size ∧ y = b.row.row
    · obtain ⟨hy, rfl⟩ := hrow
      rw [if_pos ⟨hy, rfl⟩, Option.bind_some, get?_withCellProperty, hgetD, hgetD]
      by_cases hname : other = column
      · subst hname
        rw [if_pos rfl, if_pos ⟨hy, rfl, rfl⟩]
      · rw [if_neg hname, if_neg fun h => hname (Option.some.inj h.2.2)]
    · rw [if_neg hrow, if_neg fun h => hrow ⟨h.1, h.2.1⟩]

/-- A property that is written through a cursor on a cell of a data row is kept under the name of
the cell's column.  A cell in another row, or in a column of another name, keeps its properties and
its text.  A cell in the same row of the table whose column has the same name gets the property as
if it had been written through a cursor on it, and keeps all others. -/
theorem setProperty_reaches_name {c c' : Cursor α} {b : Binding α} {data : Table}
    (hb : Binding.ofData? s x y .data = some b) (hc : c.binding? = some b)
    (hset : c.setProperty? s.data s.columns name value = some (c', data)) :
  ∀ (x' : ColumnId) (y' : Nat),
    (y ≠ y' ∨ s.columns.name? x ≠ s.columns.name? x' →
      newProperties? { s with data := data } x' y' = newProperties? s x' y'
        ∧ newText? { s with data := data } x' y' = newText? s x' y')
    ∧ (y = y' → s.columns.name? x = s.columns.name? x' → y < DataSource.rowCount s.data →
      ∀ p, newProperties? s x' y' = some p →
        ∃ p', newProperties? { s with data := data } x' y' = some p'
          ∧ ∀ k, p'.get? k = if k = name then some value else p.get? k)
  := by
  intro x' y'
  obtain ⟨rfl, rfl, -⟩ := Binding.place_of_ofData? hb
  obtain ⟨column, hcolumn, hdata⟩ := data_of_setProperty? hc hset
  simp only [newProperties?, newText?]
  rw [hdata, Binding.ofData?_withRowProperties]
  cases hb' : Binding.ofData? s x' y' .data with
  | none =>
    refine ⟨fun _ => ⟨rfl, rfl⟩, ?_⟩
    intro _ _ _ p hp
    cases hp
  | some b' =>
    obtain ⟨rfl, rfl, hband⟩ := Binding.place_of_ofData? hb'
    have hstored := storedProperties?_withCellProperty s b.row.row name value hband column
    simp only [Option.map_some]
    constructor
    · intro hne
      have hkept : ¬ (b.row.row < s.data.rows.size ∧ b.row.row = b'.row.row
          ∧ s.columns.name? b'.column.id = some column) := by
        rintro ⟨-, hrow, hname⟩
        obtain hne | hne := hne
        · exact hne hrow
        · exact hne (hcolumn.trans hname.symm)
      rw [if_neg hkept] at hstored
      have hproperties : b'.properties (s.withRowProperties b.row.row (withCellProperty
          ((s.data.rowProperties? b.row.row).getD .empty) column name value)) none
            = b'.properties s none := by
        rw [properties_eq_merge, hstored]
        rfl
      constructor
      · exact congrArg some hproperties
      · apply congrArg some
        change Formatters.format _ (b'.value _ (b'.properties _ none)) (b'.properties _ none) = _
        rw [hproperties, Binding.value_withRowProperties]
        rfl
    · intro hrow hname hy p hp
      rw [if_pos ⟨hy, hrow, hname ▸ hcolumn⟩] at hstored
      obtain rfl := Option.some.inj hp
      refine ⟨_, rfl, ?_⟩
      intro k
      change (b'.properties _ none).get? k = if k = name then _ else (b'.properties s none).get? k
      rw [properties_eq_merge, properties_eq_merge, Properties.get?_merge, hstored,
        Option.getD_some, Properties.get?_set, Properties.get?_merge]
      split <;> rfl

/-- Of three columns the first two share a name.  What is written in the first one reaches the second
one, but not the third one. -/
theorem setProperty_reaches_name_table :
  let g : Grid Rat Table (BuiltIn Rat) := .ofPipeline
    (Table.generate 3 2 fun x y => .text (toString (x + y)))
    (ColumnSchema.ofNames ["A", "A", "B"]) Config.default (.ofFeatures BuiltIn.all)
  let s := g.model.scene
  ∃ b c' data,
    Binding.ofData? s (.data 0) 1 .data = some b
      ∧ (ofBinding b none).setProperty? s.data s.columns "format" (.text "percent")
        = some (c', data)
      ∧ ∀ (x' : ColumnId) (y' : Nat),
        (1 ≠ y' ∨ s.columns.name? (.data 0) ≠ s.columns.name? x' →
          newProperties? { s with data := data } x' y' = newProperties? s x' y'
            ∧ newText? { s with data := data } x' y' = newText? s x' y')
        ∧ (1 = y' → s.columns.name? (.data 0) = s.columns.name? x' →
          1 < DataSource.rowCount s.data → ∀ p, newProperties? s x' y' = some p →
            ∃ p', newProperties? { s with data := data } x' y' = some p'
              ∧ ∀ k, p'.get? k = if k = "format" then some (.text "percent") else p.get? k)
  := by
  intro g s
  have hwritten : ((Binding.ofData? s (.data 0) 1 .data).bind fun b =>
      ((ofBinding b none).setProperty? s.data s.columns "format" (.text "percent"))).isSome
        = true := by
    simp only [s, g]
    cbv
  obtain ⟨⟨c', data⟩, hwritten⟩ := Option.isSome_iff_exists.mp hwritten
  obtain ⟨b, hb, hset⟩ := Option.bind_eq_some_iff.mp hwritten
  exact ⟨b, c', data, hb, hset, setProperty_reaches_name hb rfl hset⟩

/-- The header names two columns the same.  A property that is written in the first one of them then
shows in the second one. -/
theorem property_reaches_namesake :
  let g : Grid Rat Table (BuiltIn Rat) := .ofPipeline
    (Table.generate 2 1 fun x y => .text (toString (x + y)))
    (ColumnSchema.ofNames ["A", "A"]) Config.default (.ofFeatures BuiltIn.all)
  let s := g.model.scene
  ∃ c c' data,
    toData? s (.data 0) 0 .data = some c
      ∧ c.setProperty? s.data s.columns "format" (.text "percent") = some (c', data)
      ∧ newProperties? { s with data := data } (.data 1) 0 ≠ newProperties? s (.data 1) 0
  := by
  intro g s
  have hfound : (((toData? s (.data 0) 0 .data).bind fun c =>
      c.setProperty? s.data s.columns "format" (.text "percent")).map fun w =>
        ((newProperties? { s with data := w.2 } (.data 1) 0).bind (·.get? "format"),
          (newProperties? s (.data 1) 0).bind (·.get? "format")))
        = some (some (.text "percent"), none) := by
    simp only [s, g]
    cbv
  obtain ⟨⟨c', data⟩, hwritten, hfound⟩ := Option.map_eq_some_iff.mp hfound
  obtain ⟨c, hc, hset⟩ := Option.bind_eq_some_iff.mp hwritten
  refine ⟨c, c', data, hc, hset, ?_⟩
  intro heq
  rw [heq] at hfound
  cases (Prod.mk.inj hfound).1.symm.trans (Prod.mk.inj hfound).2

end Cursor

end DataGrid
