import Mathlib
import DataGrid.Proofs.Columns.Change
import DataGrid.Proofs.Columns.Restore

/-!
# Where columns read the table

The data columns are numbered in the order of the indexes of their schema, without gaps, and it is
this number by which they read the table.  So a column reads at the number of smaller indexes in
the schema (`ColumnSchema.place`), which is its own index only if no smaller one is left out
(`ColumnSchema.place_eq_index_iff`).  Nothing but another schema changes what is built from an entry
(`Columns.IsBuiltFrom`).
-/

namespace DataGrid

/-! ### Places of entries -/

namespace ColumnSchema

/-- The place of an entry in the order of a schema: the number of entries with a smaller index. -/
def place (schema : List ColumnSchema) (s : ColumnSchema) : Nat :=
  schema.countP fun t => t.index < s.index

variable {schema : List ColumnSchema} {s : ColumnSchema}

theorem place_eq_length (schema : List ColumnSchema) (s : ColumnSchema) :
  place schema s = ((schema.filter fun t => t.index < s.index).map (·.index)).length
  := by
  rw [place, List.countP_eq_length_filter, List.length_map]

/-- The indexes before an entry, if no two are equal, are some of the numbers below its own. -/
theorem subperm_range (h : (schema.map (·.index)).Nodup) (s : ColumnSchema) :
  ((schema.filter fun t => t.index < s.index).map (·.index)).Subperm (List.range s.index)
  := by
  apply List.subperm_of_subset
  · apply List.Nodup.sublist (List.filter_sublist.map _) h
  · intro k hk
    obtain ⟨t, ht, rfl⟩ := List.mem_map.mp hk
    apply List.mem_range.mpr
    apply of_decide_eq_true (List.mem_filter.mp ht).2

/-- An entry stands at its own index exactly if every smaller number is an index as well. -/
theorem place_eq_index_iff (h : (schema.map (·.index)).Nodup) :
  place schema s = s.index ↔ ∀ k < s.index, ∃ t ∈ schema, t.index = k
  := by
  rw [place_eq_length]
  constructor
  · intro hplace k hk
    have hperm := (subperm_range h s).perm_of_length_le (List.length_range.trans hplace.symm).le
    obtain ⟨t, ht, rfl⟩ := List.mem_map.mp (hperm.mem_iff.mpr (List.mem_range.mpr hk))
    apply Exists.intro t ⟨(List.mem_filter.mp ht).1, rfl⟩
  · intro hall
    apply le_antisymm ((subperm_range h s).length_le.trans_eq List.length_range)
    -- every number below the index is among the indexes before the entry
    have hsub : List.range s.index
        ⊆ (schema.filter fun t => t.index < s.index).map (·.index) := by
      intro k hk
      obtain ⟨t, ht, rfl⟩ := hall k (List.mem_range.mp hk)
      apply List.mem_map_of_mem
      apply List.mem_filter.mpr ⟨ht, decide_eq_true (List.mem_range.mp hk)⟩
    apply List.length_range.symm.trans_le
    apply (List.subperm_of_subset List.nodup_range hsub).length_le

end ColumnSchema

namespace Columns

open ColumnSchema (place)

/-! ### Schemas in order -/

section Sorting

variable {schema : List ColumnSchema} {s : ColumnSchema}

theorem firstOfIndex_of_ascending (h : schema.Pairwise fun s t => s.index < t.index) :
  firstOfIndex schema = schema
  := by
  induction schema with
  | nil => rw [firstOfIndex]; simp
  | cons s rest ih =>
    obtain ⟨hfirst, hrest⟩ := List.pairwise_cons.mp h
    cases rest with
    | nil => rw [firstOfIndex]; simp
    | cons t rest =>
      rw [firstOfIndex, if_neg (hfirst t List.mem_cons_self).ne, ih hrest]

/-- If no two indexes are equal, sorting makes them ascend. -/
theorem ascending_mergeSort (h : (schema.map (·.index)).Nodup) :
  (schema.mergeSort fun s t => s.index ≤ t.index).Pairwise fun s t => s.index < t.index
  := by
  have hsorted : (schema.mergeSort fun s t => s.index ≤ t.index).Pairwise
      fun s t => decide (s.index ≤ t.index) = true := by
    apply List.pairwise_mergeSort
    · intro s t u hst htu
      apply decide_eq_true ((of_decide_eq_true hst).trans (of_decide_eq_true htu))
    · intro s t
      rw [Bool.or_eq_true, decide_eq_true_eq, decide_eq_true_eq]
      apply Nat.le_total
  have hdistinct : (schema.mergeSort fun s t => s.index ≤ t.index).Pairwise
      fun s t => s.index ≠ t.index := by
    apply List.pairwise_map.mp
    apply ((List.mergeSort_perm schema _).map _).nodup_iff.mpr h
  apply hsorted.imp₂ _ hdistinct
  intro s t hle hne
  apply lt_of_le_of_ne (of_decide_eq_true hle) hne

/-- If no two indexes are equal, no entry is dropped. -/
theorem sortedSchema_eq (h : (schema.map (·.index)).Nodup) :
  sortedSchema schema = schema.mergeSort fun s t => s.index ≤ t.index
  := firstOfIndex_of_ascending (ascending_mergeSort h)

theorem perm_sortedSchema (h : (schema.map (·.index)).Nodup) :
  (sortedSchema schema).Perm schema
  := by
  rw [sortedSchema_eq h]
  apply List.mergeSort_perm

/-- In an ascending schema an entry has the smaller ones before it and nothing else. -/
theorem getElem?_place_of_ascending (h : schema.Pairwise fun s t => s.index < t.index)
    (hs : s ∈ schema) :
  schema[place schema s]? = some s
  := by
  obtain ⟨before, behind, rfl⟩ := List.append_of_mem hs
  obtain ⟨-, hbehind, hbefore⟩ := List.pairwise_append.mp h
  have hall : before.countP (fun t => t.index < s.index) = before.length := by
    apply List.countP_eq_length.mpr
    intro t ht
    apply decide_eq_true (hbefore t ht s List.mem_cons_self)
  have hnone : (s :: behind).countP (fun t => t.index < s.index) = 0 := by
    apply List.countP_eq_zero.mpr
    intro t ht hlt
    obtain rfl | ht := List.mem_cons.mp ht
    · apply lt_irrefl _ (of_decide_eq_true hlt)
    · apply lt_asymm (of_decide_eq_true hlt) ((List.pairwise_cons.mp hbehind).1 t ht)
  rw [place, List.countP_append, hall, hnone, Nat.add_zero,
    List.getElem?_append_right (Nat.le_refl _), Nat.sub_self]
  rfl

/-- Every entry stands at its place. -/
theorem getElem?_sortedSchema_place (h : (schema.map (·.index)).Nodup) (hs : s ∈ schema) :
  (sortedSchema schema)[place schema s]? = some s
  := by
  have hplace : place schema s = place (sortedSchema schema) s :=
    (perm_sortedSchema h).symm.countP_eq _
  rw [hplace]
  apply getElem?_place_of_ascending _ ((perm_sortedSchema h).mem_iff.mpr hs)
  rw [sortedSchema_eq h]
  apply ascending_mergeSort h

theorem place_injective (h : (schema.map (·.index)).Nodup) {t : ColumnSchema} (hs : s ∈ schema)
    (ht : t ∈ schema) (hplace : place schema s = place schema t) :
  s = t
  := by
  have hat := getElem?_sortedSchema_place h hs
  rw [hplace, getElem?_sortedSchema_place h ht] at hat
  apply (Option.some.inj hat).symm

/-- Whatever stands somewhere is an entry, and that is its place. -/
theorem place_of_getElem?_sortedSchema (h : (schema.map (·.index)).Nodup) {i : Nat}
    (hi : (sortedSchema schema)[i]? = some s) :
  s ∈ schema ∧ place schema s = i
  := by
  have hs : s ∈ schema := (perm_sortedSchema h).mem_iff.mp (List.mem_of_getElem? hi)
  obtain ⟨hlt, hget⟩ := List.getElem?_eq_some_iff.mp hi
  obtain ⟨hlt', hget'⟩ := List.getElem?_eq_some_iff.mp (getElem?_sortedSchema_place h hs)
  have hnodup : (sortedSchema schema).Nodup :=
    (perm_sortedSchema h).nodup_iff.mpr (List.Nodup.of_map _ h)
  apply And.intro hs ((hnodup.getElem_inj_iff).mp (hget'.trans hget.symm))

end Sorting

/-! ### Columns of a schema -/

variable {α : Type} {c c' : Columns α} {schema : List ColumnSchema}

/-- The data columns are well formed and have the names and the headers of a schema, in its
order. -/
structure IsBuiltFrom (c : Columns α) (schema : List ColumnSchema) : Prop where
  isWellFormed : c.IsWellFormed
  labels : ∀ i : Nat, c.data[i]?.map (fun d => (d.name, d.header))
    = (sortedSchema schema)[i]?.map fun s => (s.name, s.header)

namespace IsBuiltFrom

/-- The column at the place of an entry has its name and its header. -/
theorem exists_column (h : c.IsBuiltFrom schema) (hdistinct : (schema.map (·.index)).Nodup)
    {s : ColumnSchema} (hs : s ∈ schema) :
  ∃ d, c.column? (.data (place schema s)) = some d ∧ d.id = .data (place schema s)
    ∧ d.name = s.name ∧ d.header = s.header
  := by
  have hlabels := h.labels (place schema s)
  rw [getElem?_sortedSchema_place hdistinct hs] at hlabels
  obtain ⟨d, hd, hlabel⟩ := Option.map_eq_some_iff.mp hlabels
  obtain ⟨hname, hheader⟩ := Prod.mk.inj hlabel
  apply Exists.intro d ⟨hd, h.isWellFormed.id_eq _ d hd, hname, hheader⟩

/-- Every shown column stands at the place of an entry. -/
theorem exists_place_of_mem (h : c.IsBuiltFrom schema)
    (hdistinct : (schema.map (·.index)).Nodup) {id : ColumnId} (hid : id ∈ c.shown) :
  ∃ s ∈ schema, id = .data (place schema s)
  := by
  obtain ⟨i, hi, rfl⟩ := h.isWellFormed.exists_of_mem id hid
  have hlabels := h.labels i
  rw [Array.getElem?_eq_getElem hi] at hlabels
  obtain ⟨s, hs, -⟩ := Option.map_eq_some_iff.mp hlabels.symm
  obtain ⟨hmem, rfl⟩ := place_of_getElem?_sortedSchema hdistinct hs
  apply Exists.intro s ⟨hmem, rfl⟩

theorem of_data_eq (h : c.IsBuiltFrom schema) (hdata : c'.data = c.data)
    (hc' : c'.IsWellFormed) :
  c'.IsBuiltFrom schema
  := by
  constructor
  case isWellFormed => apply hc'
  case labels =>
    rw [hdata]
    apply h.labels

/-- Only the data columns and the order count. -/
theorem congr (h : c.IsBuiltFrom schema) (hdata : c'.data = c.data) (hshown : c'.shown = c.shown) :
  c'.IsBuiltFrom schema
  := by
  apply h.of_data_eq hdata
  apply h.isWellFormed.of_data_eq hdata
  rw [hshown]
  apply h.isWellFormed.exists_of_mem

theorem showColumns (h : c.IsBuiltFrom schema) (source : Source) (indexes : List Nat)
    (placement : Placement) (duplicates : Bool) :
  (c.showColumns source indexes placement duplicates).IsBuiltFrom schema
  := by
  apply h.of_data_eq (data_setShown _ _)
  apply h.isWellFormed.showColumns

theorem move? (h : c.IsBuiltFrom schema) {start count target : Nat}
    (hmove : c.move? start count target = some c') :
  c'.IsBuiltFrom schema
  := by
  have hmoved := hasMoved_of_move? hmove
  apply h.of_data_eq hmoved.data_eq
  apply h.isWellFormed.of_perm hmoved.data_eq hmoved.runMoved.perm

/-- A change that leaves names and headers alone. -/
theorem modify (h : c.IsBuiltFrom schema) (id : ColumnId) {f : Column α → Column α}
    (hf : ∀ d, (f d).id = d.id ∧ (f d).name = d.name ∧ (f d).header = d.header) :
  (c.modify id f).IsBuiltFrom schema
  := by
  constructor
  case isWellFormed =>
    apply h.isWellFormed.modify
    intro d
    apply (hf d).1
  case labels =>
    intro i
    rw [← h.labels i]
    cases id with
    | rowHandle => rfl
    | tree => rfl
    | data k =>
      change (c.data.modify k f)[i]?.map _ = _
      rw [Array.getElem?_modify]
      split
      · rw [Option.map_map]
        congr 1
        funext d
        obtain ⟨-, hname, hheader⟩ := hf d
        rw [Function.comp_apply, hname, hheader]
      · rfl

variable [Pixel α]

theorem setWidth (h : c.IsBuiltFrom schema) (id : ColumnId) (width : α) :
  (c.setWidth id width).IsBuiltFrom schema
  := by
  apply h.modify
  intro d
  exact ⟨rfl, rfl, rfl⟩

theorem restore (h : c.IsBuiltFrom schema) (s : Snapshot α) :
  (c.restore s).IsBuiltFrom schema
  := by
  have hcolumns : (s.columns.foldl restoreColumn c).IsBuiltFrom schema := by
    apply List.foldlRecOn (motive := fun c' => c'.IsBuiltFrom schema) s.columns restoreColumn h
    intro c' h' column _
    apply h'.modify
    intro d
    exact ⟨rfl, rfl, rfl⟩
  apply hcolumns.of_data_eq (data_setShown _ _)
  apply hcolumns.isWellFormed.setOrder

end IsBuiltFrom

section Reset

variable [Pixel α]

theorem isBuiltFrom_reset (c : Columns α) (schema : List ColumnSchema) (config : Config α) :
  (c.reset schema config).IsBuiltFrom schema
  := by
  constructor
  case isWellFormed => apply isWellFormed_reset
  case labels =>
    intro i
    rw [getElem?_data_reset, Option.map_map]
    rfl

theorem isBuiltFrom_ofSchema (schema : List ColumnSchema) (config : Config α) :
  (ofSchema schema config).IsBuiltFrom schema
  := (isBuiltFrom_reset (empty config) schema config).congr rfl rfl

end Reset

end Columns

end DataGrid
