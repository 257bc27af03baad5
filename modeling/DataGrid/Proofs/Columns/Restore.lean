import DataGrid.Proofs.Columns.Repeats

/-!
# Snapshots bring columns back

A snapshot that is restored gives columns the order, the widths and the properties of those it was
taken of, whatever they were before, and restoring it again changes nothing
(`Columns.restore_snapshot`).
-/

namespace DataGrid

/-- The width is neither below the least nor above the greatest one. -/
structure Column.IsWithinLimits {α : Type} [Pixel α] (c : Column α) : Prop where
  not_lt_minimum : ¬ c.width < c.minimum
  not_maximum_lt : ∀ m, c.maximum = some m → ¬ Pixel.greater m c.minimum < c.width

namespace Columns

variable {α : Type}

/-! ### Columns by their identities -/

/-- Every column, synthetic ones included, has the identity under which it is found. -/
structure KnowsIds (c : Columns α) : Prop where
  id_eq : ∀ (id : ColumnId) (d : Column α), c.column? id = some d → d.id = id

variable {c c' : Columns α}

/-- Columns are the same when the same column is found under every identity. -/
theorem column?_ext (h : ∀ id, c'.column? id = c.column? id) :
  c'.handle = c.handle ∧ c'.tree = c.tree ∧ c'.data = c.data
  := by
  have data_eq : c'.data = c.data := by
    apply Array.ext_getElem?
    intro i
    apply h (.data i)
  exact ⟨Option.some.inj (h .rowHandle), Option.some.inj (h .tree), data_eq⟩

@[simp]
theorem column?_setShown (c : Columns α) (next : List ColumnId) (id : ColumnId) :
  (c.setShown next).column? id = c.column? id
  := by
  rw [setShown, column?_noteShown]
  cases id <;> rfl

/-- A change of one column leaves the others alone. -/
theorem column?_modify (c : Columns α) (id id' : ColumnId) (f : Column α → Column α) :
  (c.modify id f).column? id' = if id = id' then (c.column? id').map f else c.column? id'
  := by
  cases id with
  | rowHandle => cases id' <;> rfl
  | tree => cases id' <;> rfl
  | data i =>
    cases id' with
    | rowHandle => rfl
    | tree => rfl
    | data j =>
      rw [modify, column?, Array.getElem?_modify]
      simp only [ColumnId.data.injEq]
      rfl

/-- Changing a column into itself changes nothing. -/
theorem modify_eq_self {id : ColumnId} {f : Column α → Column α}
    (h : ∀ d, c.column? id = some d → f d = d) :
  c.modify id f = c
  := by
  have same : ∀ id', (c.modify id f).column? id' = c.column? id' := by
    intro id'
    rw [column?_modify]
    split
    case isFalse => rfl
    case isTrue hid =>
      subst hid
      cases hd : c.column? id with
      | none => rfl
      | some d => rw [Option.map_some, h d hd]
  obtain ⟨handle_eq, tree_eq, data_eq⟩ := column?_ext same
  cases id with
  | rowHandle =>
    change { c with handle := f c.handle } = c
    rw [show f c.handle = c.handle from handle_eq]
  | tree =>
    change { c with tree := f c.tree } = c
    rw [show f c.tree = c.tree from tree_eq]
  | data i =>
    change { c with data := c.data.modify i f } = c
    rw [show c.data.modify i f = c.data from data_eq]

theorem KnowsIds.of_column?_eq (h : c.KnowsIds) (hc : ∀ id, c'.column? id = c.column? id) :
  c'.KnowsIds
  := by
  constructor
  intro id d hd
  rw [hc] at hd
  apply h.id_eq id d hd

theorem KnowsIds.modify (h : c.KnowsIds) (id : ColumnId) {f : Column α → Column α}
    (hf : ∀ d, (f d).id = d.id) :
  (c.modify id f).KnowsIds
  := by
  constructor
  intro id' d hd
  rw [column?_modify] at hd
  split at hd
  case isTrue =>
    obtain ⟨old, hold, rfl⟩ := Option.map_eq_some_iff.mp hd
    rw [hf]
    apply h.id_eq id' old hold
  case isFalse => apply h.id_eq id' d hd

theorem KnowsIds.modifyProperties (h : c.KnowsIds) (id : ColumnId) {f : Column α → Column α}
    (hf : ∀ d, (f d).id = d.id) :
  ((c.modifyProperties id f).toOption.getD c).KnowsIds
  := by
  rw [Columns.modifyProperties]
  cases c.column? id with
  | none => apply h
  | some d => apply h.modify id hf

section Changes

variable [Pixel α]

theorem KnowsIds.restore (h : c.KnowsIds) (s : Snapshot α) :
  (c.restore s).KnowsIds
  := by
  rw [Columns.restore]
  apply KnowsIds.of_column?_eq _ (column?_setShown _ _)
  apply List.foldlRecOn s.columns restoreColumn h
  intro c' h' column _
  apply h'.modify
  intro d
  rfl

theorem knowsIds_reset (c : Columns α) (schema : List ColumnSchema) (config : Config α) :
  (c.reset schema config).KnowsIds
  := by
  constructor
  intro id d hd
  cases id with
  | data i => apply (isWellFormed_reset c schema config).id_eq i d hd
  | rowHandle =>
    rw [reset, column?_noteShown] at hd
    obtain rfl := Option.some.inj hd
    rfl
  | tree =>
    rw [reset, column?_noteShown] at hd
    obtain rfl := Option.some.inj hd
    rfl

theorem KnowsIds.apply (h : c.KnowsIds) (change : Change α) :
  (c.apply change).KnowsIds
  := by
  cases change with
  | showColumns source indexes placement duplicates =>
    apply h.of_column?_eq (column?_setShown _ _)
  | hideColumns source indexes => apply h.of_column?_eq (column?_setShown _ _)
  | setOrder order => apply h.of_column?_eq (column?_setShown _ _)
  | move start count target =>
    change ((c.move? start count target).getD c).KnowsIds
    cases hmove : c.move? start count target with
    | none => apply h
    | some c' =>
      obtain ⟨next, -, hreorder⟩ := Option.bind_eq_some_iff.mp hmove
      rw [reorder?] at hreorder
      split at hreorder
      · cases hreorder
      · obtain rfl := Option.some.inj hreorder
        apply h.of_column?_eq
        intro id
        cases id <;> rfl
  | swap a b =>
    change ((c.swap? a b).getD c).KnowsIds
    rw [swap?]
    split
    · apply h
    · apply h.of_column?_eq
      intro id
      cases id <;> rfl
  | setWidth id width =>
    change (c.setWidth id width).KnowsIds
    rw [Columns.setWidth]
    apply h.modify
    intro d
    rfl
  | setProperties id p =>
    apply h.modifyProperties
    intro d
    rfl
  | addProperties id p =>
    apply h.modifyProperties
    intro d
    rfl
  | restore s => apply h.restore
  | reset schema config => apply knowsIds_reset

/-- The columns that a host can come to have: those of a schema, or the synthetic ones alone, after
changes of the list and of the columns themselves, whose identities stay as they are. -/
inductive IsReachable : Columns α → Prop where
  | empty (config : Config α) : IsReachable (empty config)
  | ofSchema (schema : List ColumnSchema) (config : Config α) : IsReachable (ofSchema schema config)
  | apply {c : Columns α} (change : Change α) : IsReachable c → IsReachable (c.apply change)
  | edit {c : Columns α} (id : ColumnId) {f : Column α → Column α} (hf : ∀ d, (f d).id = d.id) :
    IsReachable c → IsReachable (c.modify id f)
  | takeNotices {c : Columns α} : IsReachable c → IsReachable c.takeNotices.2

theorem IsReachable.isWellFormed (h : c.IsReachable) :
  c.IsWellFormed
  := by
  induction h with
  | empty config =>
    constructor
    · intro i d hd
      cases hd
    · intro id hid
      cases hid
  | ofSchema schema config => apply isWellFormed_ofSchema
  | apply change _ ih => apply ih.apply
  | edit id hf _ ih => apply ih.modify id hf
  | takeNotices _ ih => exact ⟨ih.id_eq, ih.exists_of_mem⟩

theorem IsReachable.knowsIds (h : c.IsReachable) :
  c.KnowsIds
  := by
  induction h with
  | empty config =>
    constructor
    intro id d hd
    cases id with
    | rowHandle =>
      obtain rfl := Option.some.inj hd
      rfl
    | tree =>
      obtain rfl := Option.some.inj hd
      rfl
    | data i => cases hd
  | ofSchema schema config =>
    apply (knowsIds_reset (Columns.empty config) schema config).of_column?_eq
    intro id
    cases id <;> rfl
  | apply change _ ih => apply ih.apply
  | edit id hf _ ih => apply ih.modify id hf
  | takeNotices _ ih =>
    apply ih.of_column?_eq
    intro id
    cases id <;> rfl

end Changes

/-! ### Restoring columns -/

section Restore

variable [Pixel α]

/-- A column with the width, as far as its limits allow, and the properties of a snapshot. -/
def restored (s : ColumnSnapshot α) (d : Column α) : Column α :=
  { d.resize s.width with properties := s.properties }

/-- A width within the limits is taken as it is. -/
theorem restored_columnSnapshot {d e : Column α} (hd : d.IsWithinLimits)
    (hminimum : e.minimum = d.minimum) (hmaximum : e.maximum = d.maximum) :
  restored (columnSnapshot d) e = { e with width := d.width, properties := d.properties }
  := by
  have bound_eq : e.bound d.width = d.width := by
    rw [Column.bound, hmaximum, hminimum]
    cases hmax : d.maximum with
    | none => apply if_neg hd.not_lt_minimum
    | some m => apply Pixel.clamp_eq_self hd.not_lt_minimum (hd.not_maximum_lt m hmax)
  rw [restored, Column.resize, columnSnapshot, bound_eq]

theorem column?_restoreColumn (c : Columns α) (s : ColumnSnapshot α) (id : ColumnId) :
  (c.restoreColumn s).column? id
    = if s.id = id then (c.column? id).map (restored s) else c.column? id
  := column?_modify _ _ _ _

/-- Columns that a list of snapshots does not name stay as they are. -/
theorem column?_foldl_restoreColumn_of_not {entries : List (ColumnSnapshot α)} {id : ColumnId}
    (h : ∀ e ∈ entries, e.id ≠ id) :
  (entries.foldl restoreColumn c).column? id = c.column? id
  := by
  apply List.foldlRecOn entries restoreColumn (motive := fun c' => c'.column? id = c.column? id) rfl
  intro c' hc' e he
  rw [column?_restoreColumn, if_neg (h e he), hc']

/-- A column that a list of snapshots names in one way only is brought into that state. -/
theorem column?_foldl_restoreColumn {entries : List (ColumnSnapshot α)} {s : ColumnSnapshot α}
    (hs : s ∈ entries) (honly : ∀ e ∈ entries, e.id = s.id → e = s) :
  (entries.foldl restoreColumn c).column? s.id = (c.column? s.id).map (restored s)
  := by
  induction entries generalizing c with
  | nil => cases hs
  | cons e rest ih =>
    have hrest : ∀ e' ∈ rest, e'.id = s.id → e' = s := by
      intro e' he'
      apply honly e' (List.mem_cons_of_mem e he')
    rw [List.foldl_cons]
    by_cases hmem : s ∈ rest
    · rw [ih hmem hrest, column?_restoreColumn]
      split
      case isFalse => rfl
      case isTrue hid =>
        -- what the first of two snapshots does is done again by the second one
        rw [honly e List.mem_cons_self hid, Option.map_map]
        rfl
    · obtain rfl : s = e := by
        obtain rfl | hs := List.mem_cons.mp hs
        · rfl
        · cases hmem hs
      rw [column?_foldl_restoreColumn_of_not, column?_restoreColumn, if_pos rfl]
      intro e' he' hid
      rw [hrest e' he' hid] at he'
      cases hmem he'

omit [Pixel α] in
/-- A snapshot has one entry for each column. -/
theorem mem_columns_snapshot (c : Columns α) (config : Config α) {e : ColumnSnapshot α} :
  e ∈ (c.snapshot config).columns ↔ ∃ id d, c.column? id = some d ∧ e = columnSnapshot d
  := by
  simp only [snapshot, List.mem_cons, List.mem_map, Array.mem_toList_iff]
  constructor
  · rintro (rfl | rfl | ⟨d, hd, rfl⟩)
    · exact ⟨.rowHandle, c.handle, rfl, rfl⟩
    · exact ⟨.tree, c.tree, rfl, rfl⟩
    · obtain ⟨i, hi, rfl⟩ := Array.mem_iff_getElem.mp hd
      exact ⟨.data i, c.data[i], Array.getElem?_eq_getElem hi, rfl⟩
  · rintro ⟨id, d, hd, rfl⟩
    cases id with
    | rowHandle =>
      obtain rfl := Option.some.inj hd
      apply Or.inl rfl
    | tree =>
      obtain rfl := Option.some.inj hd
      apply Or.inr (Or.inl rfl)
    | data i => apply Or.inr (Or.inr ⟨d, Array.mem_of_getElem? hd, rfl⟩)

end Restore

/-! ### Restoring the order -/

theorem foldl_addPlace_append {next ids : List ColumnId}
    (hids : ∀ id ∈ ids, ∃ i < c.data.size, id = .data i)
    (hnodup : (next ++ ids).Nodup) :
  (ids.filterMap ColumnId.dataIndex?).foldl c.addPlace next = next ++ ids
  := by
  induction ids generalizing next with
  | nil => rw [List.append_nil]; rfl
  | cons id rest ih =>
    obtain ⟨i, hi, rfl⟩ := hids id List.mem_cons_self
    have hnew : .data i ∉ next := by
      intro hmem
      apply (List.nodup_append.mp hnodup).2.2 _ hmem _ List.mem_cons_self rfl
    have hplace : ColumnId.dataIndex? (.data i) = some i := rfl
    rw [List.filterMap_cons_some hplace, List.foldl_cons, addPlace, if_pos]
    · rw [ih]
      · rw [List.append_assoc]
        rfl
      · intro id' hid'
        apply hids id' (List.mem_cons_of_mem _ hid')
      · rw [List.append_assoc]
        apply hnodup
    · rw [List.contains_iff_mem]
      exact ⟨hi, hnew⟩

/-- Columns of a table of the same size are shown in the order of another grid that shows none of
them twice. -/
theorem ordered_order {a : Columns α} (ha : a.IsWellFormed) (hnodup : a.shown.Nodup)
    (hsize : c.data.size = a.data.size) :
  c.ordered a.order = a.shown
  := by
  change a.order.foldl c.addPlace [] = a.shown
  apply foldl_addPlace_append
  · rw [hsize]
    apply ha.exists_of_mem
  · apply hnodup

/-- Showing what is shown already changes nothing, and there is nothing to note. -/
theorem setShown_shown (c : Columns α) :
  c.setShown c.shown = c
  := by
  rw [setShown, noteShown, if_pos rfl]

/-! ### Restoring a snapshot -/

/-- There are as many data columns as in other columns, and the limits of the widths are the
same. -/
structure Matches (b a : Columns α) : Prop where
  size_eq : b.data.size = a.data.size
  limits_eq : ∀ (id : ColumnId) (d e : Column α), a.column? id = some d → b.column? id = some e →
    e.minimum = d.minimum ∧ e.maximum = d.maximum

variable {a b : Columns α} {config : Config α}

/-- Columns are found under the same identities when there are as many data columns. -/
theorem exists_column?_of_size_eq (hsize : b.data.size = a.data.size) {id : ColumnId}
    {d : Column α} (hd : a.column? id = some d) :
  ∃ e, b.column? id = some e
  := by
  cases id with
  | rowHandle => exact ⟨b.handle, rfl⟩
  | tree => exact ⟨b.tree, rfl⟩
  | data i =>
    obtain ⟨hi, -⟩ := Array.getElem?_eq_some_iff.mp hd
    exact ⟨_, Array.getElem?_eq_getElem (hsize ▸ hi)⟩

/-- A snapshot says no more of the columns than their order, widths and properties. -/
theorem snapshot_eq_of_columns {settings : Config α} (hshown : b.shown = a.shown)
    (hcolumns : ∀ id, (b.column? id).map columnSnapshot = (a.column? id).map columnSnapshot) :
  b.snapshot settings
    = { a.snapshot config with
        fixedColumns := settings.fixedColumns, fixedRows := settings.fixedRows }
  := by
  have order_eq : b.order = a.order := congrArg (List.filterMap ColumnId.dataIndex?) hshown
  have handle_eq : columnSnapshot b.handle = columnSnapshot a.handle :=
    Option.some.inj (hcolumns .rowHandle)
  have tree_eq : columnSnapshot b.tree = columnSnapshot a.tree := Option.some.inj (hcolumns .tree)
  have data_eq : b.data.toList.map columnSnapshot = a.data.toList.map columnSnapshot := by
    apply List.ext_getElem?
    intro i
    rw [List.getElem?_map, List.getElem?_map, Array.getElem?_toList, Array.getElem?_toList]
    apply hcolumns (.data i)
  rw [snapshot, order_eq, handle_eq, tree_eq, data_eq]
  rfl

section Snapshots

variable [Pixel α]

theorem size_data_restore (c : Columns α) (s : Snapshot α) :
  (c.restore s).data.size = c.data.size
  := by
  rw [restore, Columns.setOrder, data_setShown]
  apply List.foldlRecOn s.columns restoreColumn
    (motive := fun c' => c'.data.size = c.data.size) rfl
  intro c' hc' e _
  rw [restoreColumn, size_data_modify, hc']

theorem shown_restore (c : Columns α) (s : Snapshot α) :
  (c.restore s).shown = c.ordered s.order
  := by
  have hsize := size_data_restore c s
  rw [restore, Columns.setOrder, data_setShown] at hsize
  rw [restore, Columns.setOrder, shown_setShown, ordered, ordered, hsize]

/-- Columns that are as a snapshot says are not changed by it. -/
theorem restore_eq_self {c : Columns α} {s : Snapshot α} (hshown : c.ordered s.order = c.shown)
    (hcolumns : ∀ e ∈ s.columns, ∀ d, c.column? e.id = some d → restored e d = d) :
  c.restore s = c
  := by
  have hfold : s.columns.foldl restoreColumn c = c := by
    apply List.foldlRecOn s.columns restoreColumn (motive := fun c' => c' = c) rfl
    rintro _ rfl e he
    apply modify_eq_self (hcolumns e he)
  rw [restore, hfold, Columns.setOrder, hshown, setShown_shown]

/-- The columns get their widths and their properties back, and nothing else of them changes. -/
theorem Matches.column?_restore (h : b.Matches a) (ha : a.KnowsIds) {id : ColumnId}
    {d : Column α} (hd : a.column? id = some d) (hwidth : d.IsWithinLimits) :
  ∃ e, b.column? id = some e
    ∧ (b.restore (a.snapshot config)).column? id
      = some { e with width := d.width, properties := d.properties }
  := by
  obtain ⟨e, he⟩ := exists_column?_of_size_eq h.size_eq hd
  obtain ⟨hminimum, hmaximum⟩ := h.limits_eq id d e hd he
  have hid : (columnSnapshot d).id = id := ha.id_eq id d hd
  have hmem : columnSnapshot d ∈ (a.snapshot config).columns :=
    (a.mem_columns_snapshot config).mpr ⟨id, d, hd, rfl⟩
  have honly : ∀ s ∈ (a.snapshot config).columns, s.id = (columnSnapshot d).id →
      s = columnSnapshot d := by
    intro s hs hsid
    obtain ⟨id', d', hd', rfl⟩ := (a.mem_columns_snapshot config).mp hs
    obtain rfl : id' = id := by
      rw [← ha.id_eq id' d' hd', ← hid]
      apply hsid
    rw [Option.some.inj (hd'.symm.trans hd)]
  have hrestored := column?_foldl_restoreColumn (c := b) hmem honly
  rw [hid, he, Option.map_some, restored_columnSnapshot hwidth hminimum hmaximum] at hrestored
  refine ⟨e, he, ?_⟩
  rw [restore, Columns.setOrder, column?_setShown]
  apply hrestored

/-- The result has the columns of the snapshot and no others. -/
theorem Matches.map_column?_restore (h : b.Matches a) (ha : a.KnowsIds) (hb : b.KnowsIds)
    (hwidths : ∀ (id : ColumnId) (d : Column α), a.column? id = some d → d.IsWithinLimits)
    (id : ColumnId) :
  ((b.restore (a.snapshot config)).column? id).map columnSnapshot
    = (a.column? id).map columnSnapshot
  := by
  cases hd : a.column? id with
  | none =>
    cases hd' : (b.restore (a.snapshot config)).column? id with
    | none => rfl
    | some d' =>
      have hsize := (size_data_restore b (a.snapshot config)).trans h.size_eq
      obtain ⟨d, h⟩ := exists_column?_of_size_eq hsize.symm hd'
      cases hd.symm.trans h
  | some d =>
    obtain ⟨e, he, he'⟩ := h.column?_restore ha hd (hwidths id d hd)
    have hid : e.id = d.id := (hb.id_eq id e he).trans (ha.id_eq id d hd).symm
    rw [he', Option.map_some, Option.map_some, columnSnapshot, columnSnapshot, hid]

/-- What has been restored is not changed by the same snapshot. -/
theorem Matches.restore_restore (h : b.Matches a) (ha : a.IsWellFormed) (hid : a.KnowsIds)
    (hwidths : ∀ (id : ColumnId) (d : Column α), a.column? id = some d → d.IsWithinLimits)
    (hnodup : a.shown.Nodup) :
  (b.restore (a.snapshot config)).restore (a.snapshot config) = b.restore (a.snapshot config)
  := by
  apply restore_eq_self
  · rw [shown_restore]
    apply (ordered_order ha hnodup _).trans (ordered_order ha hnodup h.size_eq).symm
    rw [size_data_restore, h.size_eq]
  · intro entry hentry d' hd'
    obtain ⟨id, d, hd, rfl⟩ := (a.mem_columns_snapshot config).mp hentry
    obtain ⟨e, he, he'⟩ := h.column?_restore hid hd (hwidths id d hd)
    obtain ⟨hminimum, hmaximum⟩ := h.limits_eq id d e hd he
    rw [columnSnapshot, hid.id_eq id d hd, he'] at hd'
    obtain rfl := Option.some.inj hd'
    apply restored_columnSnapshot (hwidths id d hd) hminimum hmaximum

/-- A snapshot that is restored in a grid with as many data columns and the same limits brings back
the order, the widths, the properties and the fixed columns and rows, whatever that grid was like
before.  A snapshot of the result is the same one, but for the fixed columns, of which there are no
more than are shown, and restoring the same snapshot again changes nothing and is not noted. -/
theorem restore_snapshot (ha : a.IsReachable) (hb : b.IsReachable) (hmatches : b.Matches a)
    (hwidths : ∀ (id : ColumnId) (d : Column α), a.column? id = some d → d.IsWithinLimits)
    (hnodup : a.shown.Nodup) (config settings : Config α) :
  let s := a.snapshot config
  let b' := b.restore s
  let settings' := b'.restoreConfig s settings
  b'.shown = a.shown
    ∧ (∀ id, (b'.column? id).map (fun d => (d.width, d.properties))
        = (a.column? id).map fun d => (d.width, d.properties))
    ∧ settings'.fixedColumns = min config.fixedColumns b'.shownCount
    ∧ settings'.fixedRows = config.fixedRows
    ∧ b'.snapshot settings' = { s with fixedColumns := min config.fixedColumns b'.shownCount }
    ∧ b'.restore s = b'
    ∧ b'.restoreConfig s settings' = settings'
  := by
  intro s b' settings'
  have shown_eq : b'.shown = a.shown := by
    rw [shown_restore]
    apply ordered_order ha.isWellFormed hnodup hmatches.size_eq
  have columns_eq : ∀ id, (b'.column? id).map columnSnapshot = (a.column? id).map columnSnapshot :=
    hmatches.map_column?_restore ha.knowsIds hb.knowsIds hwidths
  have again : b'.restore s = b' :=
    hmatches.restore_restore ha.isWellFormed ha.knowsIds hwidths hnodup
  refine ⟨shown_eq, ?_, rfl, rfl, snapshot_eq_of_columns shown_eq columns_eq, again, rfl⟩
  intro id
  have h := congrArg (Option.map fun s => (s.width, s.properties)) (columns_eq id)
  rw [Option.map_map, Option.map_map] at h
  apply h

/-- With the default settings new columns are within their limits. -/
theorem isWithinLimits_ofSchema_default (schema : List ColumnSchema) {id : ColumnId}
    {d : Column Rat} (hd : (ofSchema schema Config.default).column? id = some d) :
  d.IsWithinLimits
  := by
  have unbounded : d.maximum = none ∧ ¬ d.width < d.minimum := by
    cases id with
    | rowHandle =>
      change ((empty _).reset _ _).column? .rowHandle = some d at hd
      rw [reset, column?_noteShown] at hd
      obtain rfl := Option.some.inj hd
      let c := handleColumn (Config.default : Config Rat)
      refine ⟨rfl, ?_⟩
      change ¬ c.bound c.width < c.minimum
      decide
    | tree =>
      change ((empty _).reset _ _).column? .tree = some d at hd
      rw [reset, column?_noteShown] at hd
      obtain rfl := Option.some.inj hd
      let c := treeColumn (Config.default : Config Rat)
      refine ⟨rfl, ?_⟩
      change ¬ c.bound c.width < c.minimum
      decide
    | data i =>
      change ((empty _).reset _ _).data[i]? = some d at hd
      rw [getElem?_data_reset] at hd
      obtain ⟨s, -, rfl⟩ := Option.map_eq_some_iff.mp hd
      refine ⟨rfl, ?_⟩
      change ¬ ((100 : Rat) < 5)
      decide
  obtain ⟨hmaximum, hminimum⟩ := unbounded
  constructor
  · apply hminimum
  · intro m hm
    rw [hmaximum] at hm
    cases hm

/-- A column that was made wider in one grid and one that was hidden in another. -/
theorem restore_snapshot_hidden :
  let c : Columns Rat := ofSchema (ColumnSchema.ofNames ["A", "B"]) Config.default
  let a := c.apply (.hideColumns .all [0])
  let b := c.apply (.setWidth (.data 1) 42)
  let settings : Config Rat := { Config.default with fixedColumns := 2 }
  a.IsReachable ∧ b.IsReachable ∧ b.Matches a
    ∧ (∀ (id : ColumnId) (d : Column Rat), a.column? id = some d → d.IsWithinLimits)
    ∧ a.shown.Nodup
    ∧ (let s := a.snapshot settings
      let b' := b.restore s
      let settings' := b'.restoreConfig s Config.default
      b'.shown = a.shown
        ∧ (∀ id, (b'.column? id).map (fun d => (d.width, d.properties))
            = (a.column? id).map fun d => (d.width, d.properties))
        ∧ settings'.fixedColumns = min settings.fixedColumns b'.shownCount
        ∧ settings'.fixedRows = settings.fixedRows
        ∧ b'.snapshot settings'
            = { s with fixedColumns := min settings.fixedColumns b'.shownCount }
        ∧ b'.restore s = b'
        ∧ b'.restoreConfig s settings' = settings')
  := by
  intro c a b settings
  have ha : a.IsReachable := .apply _ (.ofSchema _ _)
  have hb : b.IsReachable := .apply _ (.ofSchema _ _)
  have hcolumn : ∀ id, a.column? id = c.column? id := column?_setShown _ _
  have hmatches : b.Matches a := by
    constructor
    · apply (size_data_modify _ _ _).trans
      apply (congrArg Array.size (data_setShown _ _)).symm
    · intro id d e hd he
      rw [hcolumn] at hd
      change (c.modify _ _).column? id = some e at he
      rw [column?_modify, hd] at he
      split at he
      · obtain rfl := Option.some.inj he
        exact ⟨rfl, rfl⟩
      · obtain rfl := Option.some.inj he
        exact ⟨rfl, rfl⟩
  have hwidths : ∀ (id : ColumnId) (d : Column Rat), a.column? id = some d → d.IsWithinLimits := by
    intro id d hd
    rw [hcolumn] at hd
    apply isWithinLimits_ofSchema_default _ hd
  have hnodup : a.shown.Nodup := by
    have hc : c.shown.Nodup := nodup_shown_reset _ _ _
    change (setShown _ _).shown.Nodup
    rw [shown_setShown, nodup_arrange_iff hc]
    apply Or.inl rfl
  exact ⟨ha, hb, hmatches, hwidths, hnodup,
    restore_snapshot ha hb hmatches hwidths hnodup settings Config.default⟩

end Snapshots

end Columns

end DataGrid
