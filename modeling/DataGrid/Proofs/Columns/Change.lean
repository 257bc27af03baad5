import DataGrid.Columns.Snapshot
import DataGrid.Proofs.Columns.Order

/-!
# Membership of the shown list

`Change` lists the ways in which the columns of a grid change, and `applyAll` makes a list of
changes in turn.  Whatever is asked for, the data columns keep their places in the table, and only
data columns that exist are shown (`IsWellFormed`).
-/

namespace DataGrid

namespace Columns

variable {α : Type}

/-- A change of the columns. -/
inductive Change (α : Type) where
  | showColumns (source : Source) (indexes : List Nat) (placement : Placement)
      (duplicates : Bool)
  | hideColumns (source : Source) (indexes : List Nat)
  | move (start count target : Nat)
  | swap (a b : Nat)
  | setOrder (order : List Nat)
  | setWidth (id : ColumnId) (width : α)
  | setProperties (id : ColumnId) (p : Properties)
  | addProperties (id : ColumnId) (p : Properties)
  | restore (s : Snapshot α)
  | reset (schema : List ColumnSchema) (config : Config α)

/-- The columns after a change; a change that is refused leaves them as they are. -/
def apply [Pixel α] (c : Columns α) : Change α → Columns α
  | .showColumns source indexes placement duplicates =>
    c.showColumns source indexes placement duplicates
  | .hideColumns source indexes => c.hideColumns source indexes
  | .move start count target => (c.move? start count target).getD c
  | .swap a b => (c.swap? a b).getD c
  | .setOrder order => c.setOrder order
  | .setWidth id width => c.setWidth id width
  | .setProperties id p => (c.setProperties id p).toOption.getD c
  | .addProperties id p => (c.addProperties id p).toOption.getD c
  | .restore s => c.restore s
  | .reset schema config => c.reset schema config

/-- The columns after some changes. -/
def applyAll [Pixel α] (c : Columns α) (changes : List (Change α)) : Columns α :=
  changes.foldl apply c

/-- Every data column knows its place in the table, and only data columns are shown. -/
structure IsWellFormed (c : Columns α) : Prop where
  id_eq : ∀ (i : Nat) (d : Column α), c.data[i]? = some d → d.id = .data i
  exists_of_mem : ∀ id ∈ c.shown, ∃ i < c.data.size, id = .data i

variable {c c' : Columns α}

/-! ### Requests -/

/-- Add the data column at a place to a list, unless there is none or the list has it. -/
def addPlace (c : Columns α) (next : List ColumnId) (i : Nat) : List ColumnId :=
  if i < c.data.size ∧ ¬ next.contains (.data i) then next ++ [.data i] else next

/-- The list holds data columns that exist, each once. -/
structure IsGathered (c : Columns α) (next : List ColumnId) : Prop where
  exists_of_mem : ∀ id ∈ next, ∃ i < c.data.size, id = .data i
  nodup : next.Nodup

theorem IsGathered.addPlace {next : List ColumnId} (h : c.IsGathered next) (i : Nat) :
  c.IsGathered (c.addPlace next i)
  := by
  rw [Columns.addPlace]
  split
  case isFalse => apply h
  case isTrue hi =>
    obtain ⟨hlt, hnew⟩ := hi
    rw [List.contains_iff_mem] at hnew
    constructor
    case exists_of_mem =>
      intro id hid
      obtain hold | hnew := List.mem_append.mp hid
      · apply h.exists_of_mem id hold
      · apply Exists.intro i ⟨hlt, List.mem_singleton.mp hnew⟩
    case nodup =>
      apply List.nodup_append.mpr ⟨h.nodup, List.nodup_singleton _, _⟩
      rintro _ hold _ hi rfl
      obtain rfl := List.mem_singleton.mp hi
      apply hnew hold

/-- An order, however it is asked for, shows data columns that exist, each once. -/
theorem isGathered_ordered (c : Columns α) (order : List Nat) :
  c.IsGathered (c.ordered order)
  := by
  change c.IsGathered (order.foldl c.addPlace [])
  apply List.foldlRecOn
  · constructor
    case exists_of_mem =>
      intro id hid
      cases hid
    case nodup => apply List.nodup_nil
  · intro next hnext i _
    apply hnext.addPlace

theorem IsWellFormed.exists_of_mem_pick (h : c.IsWellFormed) {source : Source}
    {indexes : List Nat} {id : ColumnId} (hid : id ∈ c.pick source indexes) :
  ∃ i < c.data.size, id = .data i
  := by
  obtain ⟨i, -, hi⟩ := List.mem_filterMap.mp hid
  cases source with
  | shown => apply h.exists_of_mem id (List.mem_of_getElem? hi)
  | all =>
    obtain ⟨d, hd, rfl⟩ := Option.map_eq_some_iff.mp hi
    obtain ⟨hlt, -⟩ := Array.getElem?_eq_some_iff.mp hd
    apply Exists.intro i ⟨hlt, h.id_eq i d hd⟩

/-! ### Changes of the shown list -/

@[simp]
theorem data_noteShown (c : Columns α) (before : List ColumnId) :
  (c.noteShown before).data = c.data
  := by
  rw [noteShown]
  split
  · rfl
  · rfl

@[simp]
theorem shown_noteShown (c : Columns α) (before : List ColumnId) :
  (c.noteShown before).shown = c.shown
  := by
  rw [noteShown]
  split
  · rfl
  · rfl

@[simp]
theorem column?_noteShown (c : Columns α) (before : List ColumnId) (id : ColumnId) :
  (c.noteShown before).column? id = c.column? id
  := by
  rw [noteShown]
  split
  · rfl
  · cases id <;> rfl

@[simp]
theorem data_setShown (c : Columns α) (next : List ColumnId) :
  (c.setShown next).data = c.data
  := data_noteShown _ _

@[simp]
theorem shown_setShown (c : Columns α) (next : List ColumnId) :
  (c.setShown next).shown = next
  := shown_noteShown _ _

/-- Columns with the same data columns are well formed if they show such ones. -/
theorem IsWellFormed.of_data_eq (h : c.IsWellFormed) (hdata : c'.data = c.data)
    (hshown : ∀ id ∈ c'.shown, ∃ i < c.data.size, id = .data i) :
  c'.IsWellFormed
  := by
  constructor
  case id_eq =>
    rw [hdata]
    apply h.id_eq
  case exists_of_mem =>
    rw [hdata]
    apply hshown

theorem IsWellFormed.showColumns (h : c.IsWellFormed) (source : Source) (indexes : List Nat)
    (placement : Placement) (duplicates : Bool) :
  (c.showColumns source indexes placement duplicates).IsWellFormed
  := by
  rw [Columns.showColumns]
  apply h.of_data_eq (data_setShown _ _)
  intro id hid
  rw [shown_setShown] at hid
  obtain hold | hpicked := mem_or_mem_of_mem_arrange hid
  · apply h.exists_of_mem id hold
  · apply h.exists_of_mem_pick hpicked

theorem IsWellFormed.setOrder (h : c.IsWellFormed) (order : List Nat) :
  (c.setOrder order).IsWellFormed
  := by
  rw [Columns.setOrder]
  apply h.of_data_eq (data_setShown _ _)
  rw [shown_setShown]
  apply (c.isGathered_ordered order).exists_of_mem

/-- A run of the shown columns has been moved before the one at `target`. -/
structure HasMoved (c c' : Columns α) (start count target : Nat) : Prop where
  data_eq : c'.data = c.data
  count_pos : 0 < count
  run_le : start + count ≤ c.shownCount
  target_le : target ≤ c.shownCount
  target_outside : target ≤ start ∨ start + count ≤ target
  shown_ne : c'.shown ≠ c.shown
  runMoved : RunMoved c.shown c'.shown start count (landing start count target)

/-- Only the data columns and the order count. -/
theorem HasMoved.congr {c'' : Columns α} {start count target : Nat}
    (h : c.HasMoved c' start count target) (hdata : c''.data = c'.data)
    (hshown : c''.shown = c'.shown) :
  c.HasMoved c'' start count target
  := by
  constructor
  case data_eq => apply hdata.trans h.data_eq
  case count_pos => apply h.count_pos
  case run_le => apply h.run_le
  case target_le => apply h.target_le
  case target_outside => apply h.target_outside
  case shown_ne =>
    rw [hshown]
    apply h.shown_ne
  case runMoved =>
    rw [hshown]
    apply h.runMoved

/-- The order after a move, if there is one. -/
theorem shown_getD_move? (c : Columns α) (start count target : Nat) :
  ((c.move? start count target).getD c).shown
    = (moveRun? c.shown start count target).getD c.shown
  := by
  rw [move?]
  cases moveRun? c.shown start count target with
  | none => rfl
  | some next =>
    rw [Option.bind_some, reorder?, Option.getD_some]
    split
    case isTrue hsame => exact hsame.symm
    case isFalse => rfl

theorem hasMoved_of_move? {start count target : Nat} (h : c.move? start count target = some c') :
  c.HasMoved c' start count target
  := by
  obtain ⟨next, hnext, h⟩ := Option.bind_eq_some_iff.mp h
  have runMoved := runMoved_of_moveRun? hnext
  obtain ⟨count_pos, run_le, target_le⟩ := bounds_of_moveRun? hnext
  rw [reorder?] at h
  split at h
  case isTrue => cases h
  case isFalse shown_ne =>
    obtain rfl := Option.some.inj h
    have target_outside : target ≤ start ∨ start + count ≤ target := by
      by_contra inside
      -- inside the run means that the run stays where it is
      rw [landing, if_neg (by omega), if_pos (by omega)] at runMoved
      apply shown_ne runMoved.eq_of_same_place
    exact ⟨rfl, count_pos, run_le, target_le, target_outside, shown_ne, runMoved⟩

/-- An exchange permutes the shown columns. -/
theorem perm_shown_of_swap? {a b : Nat} (h : c.swap? a b = some c') :
  c'.data = c.data ∧ c'.shown.Perm c.shown
  := by
  rw [swap?] at h
  split at h
  case isTrue => cases h
  case isFalse =>
    obtain rfl := Option.some.inj h
    apply And.intro rfl (perm_swapItems _ _ _)

theorem IsWellFormed.of_perm (h : c.IsWellFormed) (hdata : c'.data = c.data)
    (hperm : c'.shown.Perm c.shown) :
  c'.IsWellFormed
  := by
  apply h.of_data_eq hdata
  intro id hid
  apply h.exists_of_mem id (hperm.mem_iff.mp hid)

/-! ### Changes of columns -/

@[simp]
theorem shown_modify (c : Columns α) (id : ColumnId) (f : Column α → Column α) :
  (c.modify id f).shown = c.shown
  := by
  cases id with
  | rowHandle => rfl
  | tree => rfl
  | data i => rfl

theorem notices_modify (c : Columns α) (id : ColumnId) (f : Column α → Column α) :
  (c.modify id f).notices = c.notices
  := by
  cases id with
  | rowHandle => rfl
  | tree => rfl
  | data i => rfl

theorem size_data_modify (c : Columns α) (id : ColumnId) (f : Column α → Column α) :
  (c.modify id f).data.size = c.data.size
  := by
  cases id with
  | rowHandle => rfl
  | tree => rfl
  | data i => apply Array.size_modify

/-- A changed data column comes from the one at its place. -/
theorem getElem?_data_modify {id : ColumnId} {f : Column α → Column α} {i : Nat} {d : Column α}
    (h : (c.modify id f).data[i]? = some d) :
  ∃ old, c.data[i]? = some old ∧ (d = old ∨ d = f old)
  := by
  cases id with
  | rowHandle => apply Exists.intro d ⟨h, Or.inl rfl⟩
  | tree => apply Exists.intro d ⟨h, Or.inl rfl⟩
  | data k =>
    change (c.data.modify k f)[i]? = some d at h
    rw [Array.getElem?_modify] at h
    split at h
    · obtain ⟨old, hold, rfl⟩ := Option.map_eq_some_iff.mp h
      apply Exists.intro old ⟨hold, Or.inr rfl⟩
    · apply Exists.intro d ⟨h, Or.inl rfl⟩

theorem IsWellFormed.modify (h : c.IsWellFormed) (id : ColumnId) {f : Column α → Column α}
    (hf : ∀ d, (f d).id = d.id) :
  (c.modify id f).IsWellFormed
  := by
  constructor
  case id_eq =>
    intro i d hd
    obtain ⟨old, hold, rfl | rfl⟩ := getElem?_data_modify hd
    · apply h.id_eq i d hold
    · rw [hf]
      apply h.id_eq i old hold
  case exists_of_mem =>
    rw [shown_modify, size_data_modify]
    apply h.exists_of_mem

theorem IsWellFormed.modifyProperties (h : c.IsWellFormed) (id : ColumnId)
    {f : Column α → Column α} (hf : ∀ d, (f d).id = d.id) :
  ((c.modifyProperties id f).toOption.getD c).IsWellFormed
  := by
  rw [Columns.modifyProperties]
  cases c.column? id with
  | none => apply h
  | some d => apply h.modify id hf

@[simp]
theorem shown_modifyProperties (c : Columns α) (id : ColumnId) (f : Column α → Column α) :
  ((c.modifyProperties id f).toOption.getD c).shown = c.shown
  := by
  rw [Columns.modifyProperties]
  cases c.column? id with
  | none => rfl
  | some d => apply shown_modify

theorem IsWellFormed.setWidth [Pixel α] (h : c.IsWellFormed) (id : ColumnId) (width : α) :
  (c.setWidth id width).IsWellFormed
  := by
  rw [Columns.setWidth]
  apply h.modify
  intro d
  rfl

/-! ### Snapshots -/

section Restore

variable [Pixel α]

theorem IsWellFormed.restore (h : c.IsWellFormed) (s : Snapshot α) :
  (c.restore s).IsWellFormed
  := by
  rw [Columns.restore]
  apply IsWellFormed.setOrder
  apply List.foldlRecOn s.columns restoreColumn h
  intro c' h' column _
  apply h'.modify
  intro d
  rfl

end Restore

/-! ### Schemas -/

section Reset

variable [Pixel α]

theorem getElem?_data_reset (c : Columns α) (schema : List ColumnSchema) (config : Config α)
    (i : Nat) :
  (c.reset schema config).data[i]?
    = (sortedSchema schema)[i]?.map fun s => dataColumn config i s
  := by
  rw [reset, data_noteShown, List.getElem?_toArray, List.getElem?_map, List.getElem?_zipIdx,
    Option.map_map, Nat.zero_add]
  rfl

theorem size_data_reset (c : Columns α) (schema : List ColumnSchema) (config : Config α) :
  (c.reset schema config).data.size = (sortedSchema schema).length
  := by
  rw [reset, data_noteShown, List.size_toArray, List.length_map, List.length_zipIdx]

theorem shown_reset (c : Columns α) (schema : List ColumnSchema) (config : Config α) :
  (c.reset schema config).shown = (List.range (c.reset schema config).data.size).map .data
  := by
  rw [reset, shown_noteShown, data_noteShown]

/-- Columns that are built anew are well formed, whatever they were before. -/
theorem isWellFormed_reset (c : Columns α) (schema : List ColumnSchema) (config : Config α) :
  (c.reset schema config).IsWellFormed
  := by
  constructor
  case id_eq =>
    intro i d hd
    rw [getElem?_data_reset] at hd
    obtain ⟨s, -, rfl⟩ := Option.map_eq_some_iff.mp hd
    rfl
  case exists_of_mem =>
    intro id hid
    rw [shown_reset] at hid
    obtain ⟨i, hi, rfl⟩ := List.mem_map.mp hid
    apply Exists.intro i ⟨List.mem_range.mp hi, rfl⟩

theorem isWellFormed_ofSchema (schema : List ColumnSchema) (config : Config α) :
  (ofSchema schema config).IsWellFormed
  := (isWellFormed_reset _ schema config).of_data_eq rfl
    (isWellFormed_reset (empty config) schema config).exists_of_mem

end Reset

/-! ### Changes -/

section Changes

variable [Pixel α]

theorem IsWellFormed.apply (h : c.IsWellFormed) (change : Change α) :
  (c.apply change).IsWellFormed
  := by
  cases change with
  | showColumns source indexes placement duplicates => apply h.showColumns
  | hideColumns source indexes => apply h.showColumns
  | move start count target =>
    change ((c.move? start count target).getD c).IsWellFormed
    cases hmove : c.move? start count target with
    | none => apply h
    | some c' =>
      have hmoved := hasMoved_of_move? hmove
      apply h.of_perm hmoved.data_eq hmoved.runMoved.perm
  | swap a b =>
    change ((c.swap? a b).getD c).IsWellFormed
    cases hswap : c.swap? a b with
    | none => apply h
    | some c' =>
      obtain ⟨hdata, hperm⟩ := perm_shown_of_swap? hswap
      apply h.of_perm hdata hperm
  | setOrder order => apply h.setOrder
  | setWidth id width => apply h.setWidth
  | setProperties id p =>
    apply h.modifyProperties id
    intro d
    rfl
  | addProperties id p =>
    apply h.modifyProperties id
    intro d
    rfl
  | restore s => apply h.restore
  | reset schema config => apply isWellFormed_reset

theorem IsWellFormed.applyAll (h : c.IsWellFormed) (changes : List (Change α)) :
  (c.applyAll changes).IsWellFormed
  := by
  induction changes generalizing c with
  | nil => apply h
  | cons change rest ih => apply ih (h.apply change)

end Changes

/-! ### What well-formed columns say -/

theorem IsWellFormed.exists_column?_of_mem (h : c.IsWellFormed) {id : ColumnId}
    (hid : id ∈ c.shown) :
  ∃ d, c.column? id = some d
  := by
  obtain ⟨i, hi, rfl⟩ := h.exists_of_mem id hid
  apply Exists.intro c.data[i] (Array.getElem?_eq_getElem hi)

theorem IsWellFormed.isSome_at?_iff (h : c.IsWellFormed) (g : Nat) :
  (c.at? (.shown g)).isSome ↔ g < c.shownCount
  := by
  rw [at?, shownCount]
  by_cases hg : g < c.shown.length
  · rw [List.getElem?_eq_getElem hg, Option.bind_some]
    obtain ⟨d, hd⟩ := h.exists_column?_of_mem (List.getElem_mem hg)
    simp only [hd, hg, Option.isSome_some]
  · rw [List.getElem?_eq_none (Nat.le_of_not_lt hg), Option.bind_none]
    simp only [hg, Option.isSome_none, Bool.false_eq_true]

theorem IsWellFormed.length_order (h : c.IsWellFormed) :
  c.order.length = c.shownCount
  := by
  rw [order, shownCount, List.length_filterMap_eq_countP, List.countP_eq_length]
  intro id hid
  obtain ⟨i, -, rfl⟩ := h.exists_of_mem id hid
  rfl

theorem IsWellFormed.hidden_eq (h : c.IsWellFormed) :
  c.hidden
    = ((List.finRange c.data.size).filter fun i => .data i ∉ c.shown).map fun i => c.data[i]
  := by
  have table : c.data.toList = (List.finRange c.data.size).map fun i => c.data[i] := by
    apply List.ext_getElem
    · simp
    · intro i _ _
      simp
  rw [hidden, table, List.filter_map]
  congr 1
  apply List.filter_congr
  intro i _
  have hid : c.data[i.val].id = .data i := h.id_eq i _ (Array.getElem?_eq_getElem i.isLt)
  simp [hid]

/-- However many columns a snapshot fixes, no more are fixed than it shows. -/
theorem fixedColumns_restoreConfig_le (c : Columns α) (s : Snapshot α) (config : Config α) :
  (c.restoreConfig s config).fixedColumns ≤ c.shownCount
  := Nat.min_le_right _ _

/-- Membership of the shown list: after any changes of the columns of any schema, the data columns
know their places, the slots of the shown list are exactly those that hold a data column, the
hidden columns are the others in table order, and a snapshot fixes no more columns than it shows. -/
theorem membership_applyAll_ofSchema [Pixel α] (schema : List ColumnSchema) (config : Config α)
    (changes : List (Change α)) :
  let c := (ofSchema schema config).applyAll changes
  (∀ (i : Nat) (h : i < c.data.size), c.data[i].id = .data i)
    ∧ (∀ id ∈ c.shown, ∃ i < c.data.size, id = .data i)
    ∧ (∀ g : Nat, (c.at? (.shown g)).isSome ↔ g < c.shownCount)
    ∧ c.order.length = c.shownCount
    ∧ c.hidden
        = ((List.finRange c.data.size).filter fun i => .data i ∉ c.shown).map (fun i => c.data[i])
    ∧ ∀ (s : Snapshot α) (settings : Config α),
        ((c.restore s).restoreConfig s settings).fixedColumns ≤ (c.restore s).shownCount
  := by
  intro c
  have h : c.IsWellFormed := (isWellFormed_ofSchema schema config).applyAll changes
  have id_eq : ∀ (i : Nat) (h : i < c.data.size), c.data[i].id = .data i := by
    intro i hi
    apply h.id_eq i _ (Array.getElem?_eq_getElem hi)
  have fixed_le : ∀ (s : Snapshot α) (settings : Config α),
      ((c.restore s).restoreConfig s settings).fixedColumns ≤ (c.restore s).shownCount := by
    intro s settings
    apply fixedColumns_restoreConfig_le
  exact ⟨id_eq, h.exists_of_mem, h.isSome_at?_iff, h.length_order, h.hidden_eq, fixed_le⟩

end Columns

end DataGrid
