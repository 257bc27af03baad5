import Mathlib
import DataGrid.Proofs.Cursor.Freshness

/-!
# Properties in layers

Four maps lie over one another in the properties of a cell: the defaults of the grid, the properties
of the column, those that the column has for the header, the filter row, the row handles or the
tree, and the cell's own ones.  Under every name the properties hold what the uppermost of the four
has there (`Cursor.get?_properties_eq_layers`), whatever the maps hold; what is no map where one is
looked for is no layer.
-/

namespace DataGrid

variable {α σ : Type}

namespace Binding

/-- The entry that a map has under a name within another map, if what it has there is a map. -/
def entryWithin? (p : Properties) (within name : String) : Option Json :=
  match p.get? within with
  | some (.object entries) => Properties.get? ⟨entries⟩ name
  | _ => none

/-- What a cell alone has under a name: in the properties kept for it apart from the table if there
are any, or else, for a cell of a data row, in those of the row, under the column's name. -/
def ownEntry? [DataSource σ] (b : Binding α) (s : Scene α σ) (own? : Option Properties)
    (name : String) : Option Json :=
  match own? with
  | some own => own.get? name
  | none =>
    if b.row.band = .data then
      (s.columns.column? b.column.id).bind fun column =>
        (DataSource.rowProperties? s.data b.row.row).bind fun row =>
          entryWithin? row column.name name
    else none

/-- What the column has under a name for cells of the same kind as a cell. -/
def sectionEntry? (b : Binding α) (column : Column α) (name : String) : Option Json :=
  match b.row.band, b.column.id with
  | .header, _ => entryWithin? column.properties "columnHeader" name
  | .filter, _ => entryWithin? column.properties "filterRow" name
  | .data, .rowHandle => entryWithin? column.properties "rowHeader" name
  | .data, .tree => entryWithin? column.properties "treeHeader" name
  | .data, .data _ => none

/-- What the column has under a name for all its cells; four names are those of its sections. -/
def columnEntry? (column : Column α) (name : String) : Option Json :=
  if name ∈ ["columnHeader", "filterRow", "rowHeader", "treeHeader"] then none
  else column.properties.get? name

/-- What the layers of a cell's properties have under a name, from the top. -/
def layers [DataSource σ] (b : Binding α) (s : Scene α σ) (own? : Option Properties)
    (name : String) : List (Option Json) :=
  [b.ownEntry? s own? name,
    (s.columns.column? b.column.id).bind fun column => b.sectionEntry? column name,
    (s.columns.column? b.column.id).bind fun column => columnEntry? column name,
    s.config.cellDefaults.get? name]

/-- Reading a map within a map takes the map there, if there is one. -/
theorem entryWithin?_eq (p : Properties) (within name : String) :
  entryWithin? p within name = ((p.get? within).bind Json.properties?).bind (·.get? name)
  := by
  unfold entryWithin?
  split
  case h_1 entries h =>
    rw [h]
    rfl
  case h_2 hne =>
    cases hp : p.get? within with
    | none => rfl
    | some v =>
      cases v with
      | object entries => exact absurd hp (hne entries)
      | _ => rfl

/-- Looking up a name in what may be no map at all. -/
theorem get?_getD_empty (p? : Option Properties) (name : String) :
  (p?.getD .empty).get? name = p?.bind (·.get? name)
  := by
  cases p? with
  | none => rfl
  | some p => rfl

/-- The properties of the cell alone are the uppermost layer. -/
theorem get?_own [DataSource σ] (b : Binding α) (s : Scene α σ) (own? : Option Properties)
    (name : String) :
  ((own?.or (b.storedProperties? s)).getD .empty).get? name = b.ownEntry? s own? name
  := by
  rw [get?_getD_empty]
  cases own? with
  | some own => rfl
  | none =>
    simp only [Option.none_or, storedProperties?, isDataRow, ownEntry?, decide_eq_true_eq]
    split
    case isTrue => simp only [column?, entryWithin?_eq, Option.bind_eq_bind, Option.bind_assoc]
    case isFalse => rfl

/-- The properties that the column has for cells of one kind are the layer below. -/
theorem get?_sectionProperties (b : Binding α) (column : Column α) (name : String) :
  (b.sectionProperties column).get? name = b.sectionEntry? column name
  := by
  rw [sectionProperties, get?_getD_empty, sectionName?, sectionEntry?]
  cases b.row.band with
  | header => exact (entryWithin?_eq _ _ _).symm
  | filter => exact (entryWithin?_eq _ _ _).symm
  | data =>
    cases b.column.id with
    | rowHandle => exact (entryWithin?_eq _ _ _).symm
    | tree => exact (entryWithin?_eq _ _ _).symm
    | data i => rfl

/-- The properties that the column has for all its cells are the layer below these. -/
theorem get?_columnProperties (column : Column α) (name : String) :
  (columnProperties column).get? name = columnEntry? column name
  := by
  rw [columnProperties, Properties.get?_filterNames, columnEntry?]
  simp only [sectionNames, List.contains_eq_mem, Bool.not_eq_true', decide_eq_false_iff_not]
  rw [ite_not]

/-- The uppermost layer counts before all others. -/
theorem findSome?_layers (v? : Option Json) (below : List (Option Json)) :
  (v? :: below).findSome? id = v?.or (below.findSome? id)
  := by
  cases v? with
  | none => rfl
  | some v => rfl

/-- Under every name the properties of a cell hold what the first of its layers has there that has
anything. -/
theorem get?_properties [DataSource σ] (b : Binding α) (s : Scene α σ) (own? : Option Properties)
    (name : String) :
  (b.properties s own?).get? name = (b.layers s own? name).findSome? id
  := by
  rw [properties, Properties.get?_merge, get?_own, layers, column?]
  simp only [findSome?_layers, List.findSome?_nil, Option.or_none]
  cases s.columns.column? b.column.id with
  | none => rw [Option.bind_none, Option.bind_none, Option.none_or, Option.none_or]
  | some column =>
    simp only [Properties.get?_merge, get?_sectionProperties, get?_columnProperties,
      Option.bind_some]

end Binding

namespace Cursor

variable [Pixel α]

/-- The properties that a cursor gives of its cell hold under every name what the first of the
cell's layers has there that has anything.  This is so the first time they are asked for, and over a
table whatever the cursor has been used for before. -/
theorem get?_properties_eq_layers (name : String) :
  (∀ {σ : Type} [DataSource σ] (c : Cursor α) (s : Scene α σ) (b : Binding α),
      c.binding? = some b → c.properties? = none →
        (c.properties b s).1.get? name = (b.layers s c.own? name).findSome? id)
    ∧ (∀ (c c' : Cursor α) (s s' : Scene α Table) (uses : List Use) (b : Binding α),
      c.IsNew → c.after s uses = (c', s') → c'.binding? = some b →
        (c'.properties b s').1.get? name = (b.layers s' c'.own? name).findSome? id)
  := by
  constructor
  · intro σ _ c s b _ hunread
    rw [Cursor.properties, hunread, Binding.get?_properties]
  · intro c c' s s' uses b hc hafter hb
    have hfresh := (hc.isFresh s).after uses
    rw [hafter] at hfresh
    rw [hfresh.properties_eq hb, Binding.get?_properties]

/-- The grid gives its cells an alignment and a color, and a cell gets an alignment of its own. -/
theorem get?_properties_eq_layers_override :
  let config : Config Rat := { Config.default with
    cellDefaults := .ofEntries [("align", .text "left"), ("color", .text "blue")] }
  let g : Grid Rat Table (BuiltIn Rat) := .ofPipeline
    (Table.generate 1 1 fun x y => .text (toString (x + y)))
    (ColumnSchema.ofNames ["A"]) config (.ofFeatures BuiltIn.all)
  let uses := [.goToData (.data 0) 0 .data, .read .properties,
    .setProperty "align" (.text "right")]
  ∃ c' s' b, unbound.after g.model.scene uses = (c', s') ∧ c'.binding? = some b
    ∧ (c'.properties b s').1.get? "align" = some (.text "right")
    ∧ (c'.properties b s').1.get? "color" = some (.text "blue")
    ∧ ∀ name, (c'.properties b s').1.get? name = (b.layers s' c'.own? name).findSome? id
  := by
  intro config g uses
  have hrun : (fun r : Cursor Rat × Scene Rat Table => r.1.binding?.map fun b =>
      ((r.1.properties b r.2).1.get? "align", (r.1.properties b r.2).1.get? "color"))
        (unbound.after g.model.scene uses)
        = some (some (.text "right"), some (.text "blue")) := by
    simp only [uses, g, config]
    cbv
  generalize hafter : unbound.after g.model.scene uses = r at hrun
  obtain ⟨c', s'⟩ := r
  obtain ⟨b, hb, hrun⟩ := Option.map_eq_some_iff.mp hrun
  obtain ⟨halign, hcolor⟩ := Prod.mk.inj hrun
  refine ⟨c', s', b, rfl, hb, halign, hcolor, ?_⟩
  intro name
  exact (get?_properties_eq_layers name).2 _ _ _ _ uses b .unbound hafter hb

end Cursor

end DataGrid
