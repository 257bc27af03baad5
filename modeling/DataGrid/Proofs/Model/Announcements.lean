import DataGrid.Proofs.Columns.History
import DataGrid.Proofs.Model.Deeds

/-!
# What a model tells of fixed counts and of the selection

Listeners hear how many columns and rows were fixed before and after a change, and that the
selection is another one.  Whatever features do, and whatever hosts do short of loading a table or
restoring a snapshot, is told in full (`Model.Announces`).  These two clear the selection and say
nothing of it, and restoring says nothing of fixed counts either.
-/

namespace DataGrid

/-- What can be fixed. -/
inductive Fixed where
  | columns
  | rows

namespace Fixed

variable {α : Type}

/-- How many are fixed. -/
def count : Fixed → Config α → Nat
  | .columns, config => config.fixedColumns
  | .rows, config => config.fixedRows

/-- How many were fixed before and after a change that a notice tells of. -/
def change? : Fixed → Notice α → Option (Nat × Nat)
  | .columns, .fixedColumnsChanged before after => some (before, after)
  | .rows, .fixedRowsChanged before after => some (before, after)
  | _, _ => none

/-- The changes of a count that notices tell of. -/
def changes (f : Fixed) (notices : List (Notice α)) : List (Nat × Nat) :=
  notices.filterMap f.change?

theorem changes_append (f : Fixed) (notices notices' : List (Notice α)) :
  f.changes (notices ++ notices') = f.changes notices ++ f.changes notices'
  := List.filterMap_append

/-- Changes of the order tell nothing of what is fixed. -/
theorem changes_eq_nil (f : Fixed) {notices : List (Notice α)}
    (h : ∀ n ∈ notices, n.orderChange?.isSome = true) :
  f.changes notices = []
  := by
  apply List.filterMap_eq_nil_iff.mpr
  intro n hn
  have horder := h n hn
  cases n with
  | columnsReordered | shownColumnsChanged => cases f <;> rfl
  | _ => cases horder

end Fixed

namespace Model

variable {α σ : Type} {m m' m'' : Model α σ}

/-- Someone who is told these notices knows of all that has become of the fixed counts and of the
selection between `m` and `m'`: the changes of a count that is another one lead from what it was to
what it is, and if other ranges are selected this is told. -/
structure IsExplained (m : Model α σ) (told : List (Notice α)) (m' : Model α σ) : Prop where
  counts : ∀ f : Fixed, f.count m'.config ≠ f.count m.config →
    IsHistory (f.count m.config) (f.changes told) (f.count m'.config)
  selection : m'.selection.ranges ≠ m.selection.ranges → .selectionChanged ∈ told

/-- It is the fixed counts and the selected ranges that are explained. -/
theorem isExplained_congr {told : List (Notice α)} (hconfig : m''.config = m'.config)
    (hselection : m''.selection = m'.selection) :
  m.IsExplained told m'' ↔ m.IsExplained told m'
  := by
  constructor
  · intro h
    exact ⟨hconfig ▸ h.counts, hselection ▸ h.selection⟩
  · intro h
    exact ⟨hconfig ▸ h.counts, hselection ▸ h.selection⟩

/-- The model `m'` has taken down what has become of the fixed counts and of the selection since it
was `m`. -/
structure Announces (m m' : Model α σ) : Prop where
  columns : m.columns.NotesOrder m'.columns
  notices : ∃ told, m'.notices = m.notices ++ told
    ∧ (∀ f : Fixed, IsHistory (f.count m.config) (f.changes told) (f.count m'.config))
    ∧ (m'.selection = m.selection ∨ .selectionChanged ∈ told)

namespace Announces

/-- Where neither the counts nor the selection change, nothing need be told of them. -/
theorem of_columns (hcolumns : m.columns.NotesOrder m'.columns) (hnotices : m'.notices = m.notices)
    (hcounts : ∀ f : Fixed, f.count m'.config = f.count m.config)
    (hselection : m'.selection = m.selection) :
  m.Announces m'
  := by
  refine ⟨hcolumns, [], ?_, hcounts, .inl hselection⟩
  rw [hnotices, List.append_nil]

theorem of_eq (hcolumns : m'.columns = m.columns) (hnotices : m'.notices = m.notices)
    (hconfig : m'.config = m.config) (hselection : m'.selection = m.selection) :
  m.Announces m'
  := by
  apply of_columns (.of_eq _) hnotices _ hselection
  · rw [hcolumns]
  · intro f
    rw [hconfig]

theorem trans (h : m.Announces m') (h' : m'.Announces m'') :
  m.Announces m''
  := by
  obtain ⟨told, hnotices, hcounts, hselection⟩ := h.notices
  obtain ⟨told', hnotices', hcounts', hselection'⟩ := h'.notices
  refine ⟨h.columns.trans h'.columns, told ++ told', ?_, ?_, ?_⟩
  · rw [hnotices', hnotices, List.append_assoc]
  · intro f
    rw [Fixed.changes_append]
    apply (hcounts f).append (hcounts' f)
  · obtain hsame' | hchanged' := hselection'
    · obtain hsame | hchanged := hselection
      · exact .inl (hsame'.trans hsame)
      · exact .inr (List.mem_append_left _ hchanged)
    · exact .inr (List.mem_append_right _ hchanged')

/-- If all notices of `m` have been taken, those of `m'` explain what has changed. -/
theorem isExplained (h : m.Announces m') (hcolumns : m.columns.notices = [])
    (hnotices : m.notices = []) :
  m.IsExplained m'.takeNotices.1 m'
  := by
  obtain ⟨told, htold, horder⟩ := h.columns
  obtain ⟨told', htold', hcounts, hselection⟩ := h.notices
  rw [hcolumns, List.nil_append] at htold
  rw [hnotices, List.nil_append] at htold'
  have htaken : m'.takeNotices.1 = told ++ told' := congrArg₂ (· ++ ·) htold htold'
  rw [htaken]
  constructor
  case counts =>
    intro f _
    rw [Fixed.changes_append, f.changes_eq_nil horder]
    apply hcounts f
  case selection =>
    intro hne
    obtain hsame | hchanged := hselection
    · rw [hsame] at hne
      exact absurd rfl hne
    · apply List.mem_append_right _ hchanged

end Announces

/-- A notice beside the columns may tell of anything but a count. -/
theorem Announces.emit (h : m.Announces m') {n : Notice α} (hn : ∀ f : Fixed, f.change? n = none) :
  m.Announces (m'.emit n)
  := by
  apply h.trans
  refine ⟨.of_eq rfl, [n], rfl, ?_, .inl rfl⟩
  intro f
  rw [Fixed.changes, List.filterMap_cons_none (hn f)]
  rfl

theorem announces_select (m : Model α σ) (s : Selection) :
  m.Announces (m.select s)
  := by
  refine ⟨.of_eq rfl, [.selectionChanged], rfl, ?_, .inr (List.mem_singleton_self _)⟩
  intro f
  cases f <;> rfl

theorem announces_selectIfNew (m : Model α σ) (s : Selection) :
  m.Announces (m.selectIfNew s)
  := by
  rw [selectIfNew]
  split
  · exact .of_eq rfl rfl rfl rfl
  · apply announces_select

variable [Pixel α] [DataSource σ]

/-- Laying the grid out anew changes neither. -/
theorem Announces.relayout (h : m.Announces m') :
  m.Announces m'.relayout
  := ⟨h.columns, h.notices⟩

theorem announces_setFixedColumns (m : Model α σ) (count : Nat) :
  m.Announces (m.setFixedColumns count)
  := by
  rw [setFixedColumns]
  dsimp only
  split
  · exact .of_eq rfl rfl rfl rfl
  · apply Announces.relayout
    refine ⟨.of_eq rfl, [_], rfl, ?_, .inl rfl⟩
    intro f
    cases f with
    | columns => exact ⟨rfl, rfl⟩
    | rows => rfl

theorem announces_setFixedRows (m : Model α σ) (count : Nat) :
  m.Announces (m.setFixedRows count)
  := by
  rw [setFixedRows]
  dsimp only
  split
  · exact .of_eq rfl rfl rfl rfl
  · apply Announces.relayout
    refine ⟨.of_eq rfl, [_], rfl, ?_, .inl rfl⟩
    intro f
    cases f with
    | columns => rfl
    | rows => exact ⟨rfl, rfl⟩

theorem announces_clampFixedColumns (m : Model α σ) :
  m.Announces m.clampFixedColumns
  := by
  rw [clampFixedColumns]
  split
  · apply announces_setFixedColumns
  · exact .of_eq rfl rfl rfl rfl

theorem announces_clampFixedRows (m : Model α σ) :
  m.Announces m.clampFixedRows
  := by
  rw [clampFixedRows]
  split
  · apply announces_setFixedRows
  · exact .of_eq rfl rfl rfl rfl

theorem announces_setColumnWidth (m : Model α σ) (id : ColumnId) (width : α) :
  m.Announces (m.setColumnWidth id width)
  := by
  rw [setColumnWidth]
  split
  · apply Announces.relayout
    exact .of_columns (.of_eq (Columns.notices_modify _ _ _)) rfl (fun _ => rfl) rfl
  · exact .of_eq rfl rfl rfl rfl

theorem announces_moveColumns (m : Model α σ) (start count target : Nat) :
  m.Announces ((m.moveColumns? start count target).getD m)
  := by
  cases h : m.moveColumns? start count target with
  | none => exact .of_eq rfl rfl rfl rfl
  | some m' =>
    obtain ⟨columns, hmove, rfl⟩ := Option.map_eq_some_iff.mp h
    have hcolumns : m.Announces { m with columns := columns } :=
      .of_columns (Columns.notesOrder_move? hmove) rfl (fun _ => rfl) rfl
    apply Announces.relayout
    apply hcolumns.trans (announces_selectIfNew _ _)

theorem announces_showColumns (m : Model α σ) (source : Columns.Source) (indexes : List Nat)
    (placement : Columns.Placement) (duplicates : Bool) :
  m.Announces (m.showColumns source indexes placement duplicates)
  := by
  have hcolumns : m.Announces
      { m with columns := m.columns.showColumns source indexes placement duplicates } :=
    .of_columns (Columns.notesOrder_setShown _ _) rfl (fun _ => rfl) rfl
  apply Announces.relayout
  apply hcolumns.trans (announces_clampFixedColumns _)

theorem announces_act (m : Model α σ) (d : Deed α) :
  m.Announces (m.act d)
  := by
  cases d with
  | scroll left top => exact .of_eq rfl rfl rfl rfl
  | draw o => exact .of_eq rfl rfl rfl rfl
  | hover cell => exact .of_eq rfl rfl rfl rfl
  | select s => apply announces_select
  | resize id width => apply announces_setColumnWidth
  | noteResize id before after =>
    apply Announces.emit (.of_eq rfl rfl rfl rfl)
    intro f
    cases f <;> rfl
  | fixColumns count => apply announces_setFixedColumns
  | fixRows count => apply announces_setFixedRows
  | move start count target => apply announces_moveColumns
  | askForMenu point gridCell dataCell =>
    apply Announces.emit (.of_eq rfl rfl rfl rfl)
    intro f
    cases f <;> rfl

/-- Whatever features do, they tell of counts and of the selection. -/
theorem Acts.announces {may : Deed α → Prop} (h : m.Acts may m') :
  m.Announces m'
  := by
  apply h.keeps (M := m.Announces) _ (.of_eq rfl rfl rfl rfl)
  intro m' d _ ih
  apply ih.trans (announces_act m' d)

/-! ### Loading and restoring -/

omit [Pixel α] [DataSource σ] in
/-- If columns have noted nothing but the order, what waits with them tells of no selection. -/
theorem selectionChanged_not_mem (h : m.columns.NotesOrder m'.columns)
    (hcolumns : m.columns.notices = []) :
  .selectionChanged ∉ m'.columns.notices
  := by
  obtain ⟨told, htold, horder⟩ := h
  rw [htold, hcolumns, List.nil_append]
  intro hmem
  have hsome := horder _ hmem
  cases hsome

/-- Fixing columns or rows tells of no selection. -/
theorem selectionChanged_mem_setFixedColumns {count : Nat}
    (h : .selectionChanged ∈ (m.setFixedColumns count).notices) :
  .selectionChanged ∈ m.notices
  := by
  rw [setFixedColumns] at h
  dsimp only at h
  split at h
  · apply h
  · obtain h | h := List.mem_append.mp h
    · apply h
    · cases List.mem_singleton.mp h

theorem selectionChanged_mem_setFixedRows {count : Nat}
    (h : .selectionChanged ∈ (m.setFixedRows count).notices) :
  .selectionChanged ∈ m.notices
  := by
  rw [setFixedRows] at h
  dsimp only at h
  split at h
  · apply h
  · obtain h | h := List.mem_append.mp h
    · apply h
    · cases List.mem_singleton.mp h

theorem selectionChanged_mem_clamp
    (h : .selectionChanged ∈ m.clampFixedColumns.clampFixedRows.notices) :
  .selectionChanged ∈ m.notices
  := by
  have hcolumns : .selectionChanged ∈ m.clampFixedColumns.notices := by
    rw [clampFixedRows] at h
    split at h
    · apply selectionChanged_mem_setFixedRows h
    · apply h
  rw [clampFixedColumns] at hcolumns
  split at hcolumns
  · apply selectionChanged_mem_setFixedColumns hcolumns
  · apply hcolumns

/-- The model with another table and nothing selected, in which no count has been looked at yet. -/
def fresh (m : Model α σ) (data : σ) (schema : List ColumnSchema) : Model α σ :=
  { m with
    data := data
    columns := m.columns.reset schema m.config
    selection := .empty
    hovered := none
    overlays := .none }

theorem selection_load (m : Model α σ) (data : σ) (schema : List ColumnSchema) :
  (m.load data schema).selection = .empty
  := by
  change (clampFixedRows (clampFixedColumns (m.fresh data schema))).selection = .empty
  rw [selection_clampFixedRows, selection_clampFixedColumns]
  rfl

/-- A table is loaded without a word of the selection. -/
theorem isExplained_load_iff (hcolumns : m.columns.notices = []) (hnotices : m.notices = [])
    (data : σ) (schema : List ColumnSchema) :
  m.IsExplained (m.load data schema).takeNotices.1 (m.load data schema)
    ↔ m.selection.ranges = []
  := by
  have hreset : m.columns.NotesOrder (m.fresh data schema).columns :=
    Columns.notesOrder_reset _ _ _
  have hclamp : (m.fresh data schema).Announces (m.load data schema) := by
    apply Announces.relayout
    apply (announces_clampFixedColumns _).trans (announces_clampFixedRows _)
  constructor
  · intro h
    by_contra hne
    have htold := h.selection (by rw [selection_load]; exact Ne.symm hne)
    obtain hmem | hmem := List.mem_append.mp htold
    · apply selectionChanged_not_mem (hreset.trans hclamp.columns) hcolumns hmem
    · have hold : .selectionChanged ∈ m.notices :=
        selectionChanged_mem_clamp (m := m.fresh data schema) hmem
      rw [hnotices] at hold
      cases hold
  · intro hempty
    have hfresh : m.Announces (m.fresh data schema) := by
      apply Announces.of_columns hreset rfl (fun _ => rfl)
      apply congrArg Selection.mk hempty.symm
    apply (hfresh.trans hclamp).isExplained hcolumns hnotices

/-- A snapshot is restored without a word of counts and of the selection. -/
theorem isExplained_restore_iff (hcolumns : m.columns.notices = []) (hnotices : m.notices = [])
    (s : Snapshot α) :
  m.IsExplained (m.restore s).takeNotices.1 (m.restore s)
    ↔ (∀ f : Fixed, f.count (m.restore s).config = f.count m.config) ∧ m.selection.ranges = []
  := by
  have hrestore : m.columns.NotesOrder (m.restore s).columns := m.columns.notesOrder_restore s
  constructor
  · intro h
    have htaken : (m.restore s).takeNotices.1 = (m.restore s).columns.notices := by
      change (m.restore s).columns.notices ++ m.notices = _
      rw [hnotices, List.append_nil]
    rw [htaken] at h
    constructor
    · intro f
      by_contra hne
      obtain ⟨told, htold, horder⟩ := hrestore
      have hhistory := h.counts f hne
      rw [htold, hcolumns, List.nil_append, f.changes_eq_nil horder] at hhistory
      apply hne hhistory
    · by_contra hne
      apply selectionChanged_not_mem hrestore hcolumns (h.selection (Ne.symm hne))
  · rintro ⟨hcounts, hempty⟩
    have hannounces : m.Announces (m.restore s) := by
      apply Announces.of_columns hrestore rfl hcounts
      apply congrArg Selection.mk hempty.symm
    apply hannounces.isExplained hcolumns hnotices

end Model

end DataGrid
