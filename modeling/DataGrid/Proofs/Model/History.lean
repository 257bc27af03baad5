import DataGrid.Proofs.Columns.History
import DataGrid.Proofs.Model.Deeds

/-!
# What a model takes down of the order

A model takes down no more of the order of its columns than they do themselves, whatever features
and hosts do to it (`Model.Records`).
-/

namespace DataGrid

open Notice (orderChange? orderChanges orderChanges_append)

namespace Model

variable {α σ : Type} {m m' m'' : Model α σ}

/-- The columns of `m'` have taken down what happened to their order since the model was `m`, and
nothing about that stands anywhere else. -/
structure Records (m m' : Model α σ) : Prop where
  columns : m.columns.Records m'.columns
  notices : ∃ told, m'.notices = m.notices ++ told ∧ orderChanges told = []

namespace Records

/-- What leaves the columns as they are and notes nothing has nothing to record. -/
theorem of_eq (hcolumns : m'.columns = m.columns) (hnotices : m'.notices = m.notices) :
  m.Records m'
  := by
  constructor
  case columns =>
    rw [hcolumns]
    apply Columns.Records.of_eq rfl rfl
  case notices =>
    refine ⟨[], ?_, rfl⟩
    rw [hnotices, List.append_nil]

theorem trans (h : m.Records m') (h' : m'.Records m'') :
  m.Records m''
  := by
  obtain ⟨told, hnotices, hnone⟩ := h.notices
  obtain ⟨told', hnotices', hnone'⟩ := h'.notices
  constructor
  case columns => apply h.columns.trans h'.columns
  case notices =>
    refine ⟨told ++ told', ?_, ?_⟩
    · rw [hnotices', hnotices, List.append_assoc]
    · rw [orderChanges_append, hnone, hnone']
      rfl

/-- What the columns do is on record if the rest of the model stays. -/
theorem of_columns {columns : Columns α} (h : m.columns.Records columns) :
  m.Records { m with columns := columns }
  := ⟨h, [], (List.append_nil _).symm, rfl⟩

/-- If all notices of `m` have been taken, those of `m'` are a history of the order. -/
theorem isHistory (h : m.Records m') (hcolumns : m.columns.notices = [])
    (hnotices : m.notices = []) :
  IsHistory m.columns.shown (orderChanges m'.takeNotices.1) m'.columns.shown
  := by
  obtain ⟨told, htold, hhistory⟩ := h.columns
  obtain ⟨told', htold', hnone⟩ := h.notices
  rw [hcolumns, List.nil_append] at htold
  rw [hnotices, List.nil_append] at htold'
  change IsHistory _ (orderChanges (m'.columns.notices ++ m'.notices)) _
  rw [orderChanges_append, htold, htold', hnone, List.append_nil]
  apply hhistory

end Records

/-- A notice beside the columns may tell of anything but a change of the order. -/
theorem Records.emit (h : m.Records m') {n : Notice α} (hn : n.orderChange? = none) :
  m.Records (m'.emit n)
  := by
  apply h.trans
  constructor
  case columns => apply Columns.Records.of_eq rfl rfl
  case notices =>
    refine ⟨[n], rfl, ?_⟩
    rw [orderChanges, List.filterMap_cons_none hn]
    rfl

theorem records_select (m : Model α σ) (s : Selection) :
  m.Records (m.select s)
  := by
  have hselected : m.Records { m with selection := s } := Records.of_eq rfl rfl
  apply hselected.emit rfl

theorem records_selectIfNew (m : Model α σ) (s : Selection) :
  m.Records (m.selectIfNew s)
  := by
  rw [selectIfNew]
  split
  · exact .of_eq rfl rfl
  · apply records_select

variable [Pixel α] [DataSource σ]

/-- Laying the grid out anew is not worth noting. -/
theorem Records.relayout (h : m.Records m') :
  m.Records m'.relayout
  := ⟨h.columns, h.notices⟩

theorem records_scrollTo (m : Model α σ) (left top : Nat) :
  m.Records (m.scrollTo left top)
  := Records.of_eq rfl rfl

theorem records_setFixedColumns (m : Model α σ) (count : Nat) :
  m.Records (m.setFixedColumns count)
  := by
  rw [setFixedColumns]
  dsimp only
  split
  · exact .of_eq rfl rfl
  · apply Records.relayout
    apply Records.emit _ rfl
    exact .of_eq rfl rfl

theorem records_setFixedRows (m : Model α σ) (count : Nat) :
  m.Records (m.setFixedRows count)
  := by
  rw [setFixedRows]
  dsimp only
  split
  · exact .of_eq rfl rfl
  · apply Records.relayout
    apply Records.emit _ rfl
    exact .of_eq rfl rfl

theorem records_clampFixedColumns (m : Model α σ) :
  m.Records m.clampFixedColumns
  := by
  rw [clampFixedColumns]
  split
  · apply records_setFixedColumns
  · exact .of_eq rfl rfl

theorem records_clampFixedRows (m : Model α σ) :
  m.Records m.clampFixedRows
  := by
  rw [clampFixedRows]
  split
  · apply records_setFixedRows
  · exact .of_eq rfl rfl

theorem records_setColumnWidth (m : Model α σ) (id : ColumnId) (width : α) :
  m.Records (m.setColumnWidth id width)
  := by
  rw [setColumnWidth]
  split
  · apply Records.relayout
    apply Records.of_columns (Columns.records_modify _ _ _)
  · exact .of_eq rfl rfl

theorem records_moveColumns (m : Model α σ) (start count target : Nat) :
  m.Records ((m.moveColumns? start count target).getD m)
  := by
  cases h : m.moveColumns? start count target with
  | none => exact .of_eq rfl rfl
  | some m' =>
    obtain ⟨columns, hmove, rfl⟩ := Option.map_eq_some_iff.mp h
    apply Records.relayout
    apply (Records.of_columns (Columns.records_move? hmove)).trans
    apply records_selectIfNew

theorem records_showColumns (m : Model α σ) (source : Columns.Source) (indexes : List Nat)
    (placement : Columns.Placement) (duplicates : Bool) :
  m.Records (m.showColumns source indexes placement duplicates)
  := by
  apply Records.relayout
  apply (Records.of_columns (Columns.records_setShown _ _)).trans
  apply records_clampFixedColumns

theorem records_load (m : Model α σ) (data : σ) (schema : List ColumnSchema) :
  m.Records (m.load data schema)
  := by
  apply Records.relayout
  apply Records.trans _ (records_clampFixedRows _)
  apply Records.trans _ (records_clampFixedColumns _)
  apply (Records.of_columns (m.columns.records_reset schema m.config)).trans
  exact .of_eq rfl rfl

theorem records_restore (m : Model α σ) (s : Snapshot α) :
  m.Records (m.restore s)
  := by
  apply Records.relayout
  apply (Records.of_columns (m.columns.records_restore s)).trans
  exact .of_eq rfl rfl

theorem records_act (m : Model α σ) (d : Deed α) :
  m.Records (m.act d)
  := by
  cases d with
  | scroll left top => apply records_scrollTo
  | draw o => exact .of_eq rfl rfl
  | hover cell => exact .of_eq rfl rfl
  | select s => apply records_select
  | resize id width => apply records_setColumnWidth
  | noteResize id before after => exact Records.emit (.of_eq rfl rfl) rfl
  | fixColumns count => apply records_setFixedColumns
  | fixRows count => apply records_setFixedRows
  | move start count target => apply records_moveColumns
  | askForMenu point gridCell dataCell => exact Records.emit (.of_eq rfl rfl) rfl

/-- Whatever features do, what happens to the order is on record. -/
theorem Acts.records {may : Deed α → Prop} (h : m.Acts may m') :
  m.Records m'
  := by
  apply h.keeps (M := m.Records) _ (Records.of_eq rfl rfl)
  intro m' d _ ih
  apply ih.trans (records_act m' d)

end Model

end DataGrid
