import Mathlib.Data.List.Nodup
import DataGrid.Proofs.Columns.Change
import DataGrid.Proofs.Layout.Places

/-!
# Looking things up on the screen

No slot, no number and no row of a band is on the screen twice, and no column either if none is shown
twice.  So whatever is on the screen is found there again by its place on the grid and by its place
in the table.
-/

namespace DataGrid

/-- Where no key is repeated, an item is found by its key. -/
theorem find?_eq_some_of_nodup_map {β γ : Type} {xs : List β} {key : β → γ}
    (h : (xs.map key).Nodup) {x : β} (hx : x ∈ xs) {p : β → Bool}
    (hp : ∀ y, p y = true ↔ key y = key x) :
  xs.find? p = some x
  := by
  cases hfind : xs.find? p with
  | none =>
    have hnot := List.find?_eq_none.mp hfind x hx
    exact absurd ((hp x).mpr rfl) hnot
  | some y =>
    have hkey := (hp y).mp (List.find?_some hfind)
    rw [List.inj_on_of_nodup_map h (List.mem_of_find?_eq_some hfind) hx hkey]

/-- Where no item is repeated, an item is found at the index at which it stands. -/
theorem idxOf?_eq_some_iff_of_nodup {β : Type} [DecidableEq β] {xs : List β} (h : xs.Nodup) {x : β}
    {i : Nat} :
  xs.idxOf? x = some i ↔ xs[i]? = some x
  := by
  rw [List.idxOf?_eq_some_iff, List.getElem?_eq_some_iff]
  constructor
  · rintro ⟨hi, hx, -⟩
    exact ⟨hi, hx⟩
  · rintro ⟨hi, rfl⟩
    refine ⟨hi, rfl, fun j hj heq => ?_⟩
    apply Nat.ne_of_lt hj (h.getElem_inj_iff.mp heq)

/-- Numbers from zero, and others that begin behind them, are all different. -/
theorem nodup_range_append_range' {n first m : Nat} (h : n ≤ first) :
  (List.range n ++ List.range' first m).Nodup
  := by
  apply List.nodup_append.mpr ⟨List.nodup_range, List.nodup_range', _⟩
  rintro i hi j hj rfl
  have hlt := List.mem_range.mp hi
  have hle := (List.mem_range'_1.mp hj).1
  omega

namespace Layout

variable {α : Type} [Pixel α] {c : Columns α} {config : Config α} {v : Viewport α} {rowCount : Nat}

/-! ### Columns -/

/-- The shown columns on the screen: all that are fixed, and a run of those that scroll. -/
theorem exists_slots_columns (c : Columns α) (config : Config α) (v : Viewport α)
    (rowCount : Nat) :
  let l := compute c config v rowCount
  let fixed := min config.fixedColumns c.shownCount
  let first := fixed + v.scrollLeft
  ∃ n ≤ c.shownCount - first,
    l.columns.map (·.slot)
        = (syntheticPlaces config).map Prod.fst
            ++ (List.range fixed ++ List.range' first n).map Slot.shown
      ∧ l.columns.map (·.id)
        = (syntheticPlaces config).map Prod.snd
            ++ (c.shown.take fixed ++ (c.shown.drop first).take n)
      ∧ (n < c.shownCount - first → v.width ≤ l.rightEdge)
  := by
  intro l fixed first
  obtain ⟨n, hn, hplaces, hlimit⟩ := exists_places_columns c config v rowCount
  have hfixed : (c.shown.take fixed).length = fixed := by
    rw [List.length_take]
    apply Nat.min_eq_left (Nat.min_le_right _ _)
  have hscrolling : ((c.shown.drop first).take n).length = n := by
    rw [List.length_take, List.length_drop]
    apply Nat.min_eq_left hn
  refine ⟨n, hn, ?_, ?_, hlimit⟩
  · have h := congrArg (List.map Prod.fst) hplaces
    rw [List.map_map, List.map_append, List.map_append, slot_shownPlaces, slot_shownPlaces, hfixed,
      hscrolling, ← List.range_eq_range', List.append_assoc, ← List.map_append] at h
    apply h
  · have h := congrArg (List.map Prod.snd) hplaces
    rw [List.map_map, List.map_append, List.map_append, id_shownPlaces, id_shownPlaces,
      List.append_assoc] at h
    apply h

omit [Pixel α] in
theorem nodup_syntheticPlaces (config : Config α) :
  ((syntheticPlaces config).map Prod.fst).Nodup ∧ ((syntheticPlaces config).map Prod.snd).Nodup
  := by
  rw [syntheticPlaces]
  cases config.showRowHandle <;> cases config.showTree <;> simp

omit [Pixel α] in
theorem synthetic_of_mem_syntheticPlaces {p : Slot × ColumnId} (hp : p ∈ syntheticPlaces config) :
  p.1.shownIndex? = none ∧ p.2.isSynthetic = true
  := by
  obtain h | h := List.mem_append.mp hp <;> split at h
  · rw [List.mem_singleton.mp h]
    exact ⟨rfl, rfl⟩
  · cases h
  · rw [List.mem_singleton.mp h]
    exact ⟨rfl, rfl⟩
  · cases h

theorem nodup_slot_columns (c : Columns α) (config : Config α) (v : Viewport α)
    (rowCount : Nat) :
  ((compute c config v rowCount).columns.map (·.slot)).Nodup
  := by
  obtain ⟨n, -, hslots, -⟩ := exists_slots_columns c config v rowCount
  rw [hslots]
  apply List.nodup_append.mpr ⟨(nodup_syntheticPlaces config).1, _, _⟩
  · apply (nodup_range_append_range' (Nat.le_add_right _ _)).map
    intro i j hij
    apply Slot.shown.inj hij
  · rintro slot hslot _ hshown rfl
    obtain ⟨p, hp, rfl⟩ := List.mem_map.mp hslot
    obtain ⟨i, -, hi⟩ := List.mem_map.mp hshown
    have hnone := (synthetic_of_mem_syntheticPlaces hp).1
    rw [← hi] at hnone
    cases hnone

theorem nodup_id_columns (hc : c.IsWellFormed) (hnodup : c.shown.Nodup) (config : Config α)
    (v : Viewport α) (rowCount : Nat) :
  ((compute c config v rowCount).columns.map (·.id)).Nodup
  := by
  obtain ⟨n, -, -, hids, -⟩ := exists_slots_columns c config v rowCount
  have hsublist : (c.shown.take (min config.fixedColumns c.shownCount)
      ++ (c.shown.drop (min config.fixedColumns c.shownCount + v.scrollLeft)).take n).Sublist
        c.shown := by
    conv => rhs; rw [← List.take_append_drop (min config.fixedColumns c.shownCount) c.shown]
    apply List.Sublist.append_left
    apply (List.take_sublist _ _).trans
    rw [← List.drop_drop]
    apply List.drop_sublist
  rw [hids]
  apply List.nodup_append.mpr ⟨(nodup_syntheticPlaces config).2, hnodup.sublist hsublist, _⟩
  rintro id hid _ hshown rfl
  obtain ⟨p, hp, rfl⟩ := List.mem_map.mp hid
  obtain ⟨i, -, hi⟩ := hc.exists_of_mem _ (hsublist.subset hshown)
  have hsynthetic := (synthetic_of_mem_syntheticPlaces hp).2
  rw [hi] at hsynthetic
  cases hsynthetic

omit [Pixel α] in
theorem getElem?_of_mem_shownPlaces {ids : List ColumnId} {first i : Nat} {id : ColumnId}
    (h : (Slot.shown i, id) ∈ shownPlaces first ids) :
  first ≤ i ∧ ids[i - first]? = some id
  := by
  obtain ⟨⟨id', j⟩, hj, heq⟩ := List.mem_map.mp h
  obtain ⟨hslot, rfl⟩ := Prod.mk.inj heq
  obtain rfl := Slot.shown.inj hslot
  apply List.mem_zipIdx_iff_le_and_getElem?_sub.mp hj

/-- A column on the screen is a synthetic one, or the column that is shown at its slot. -/
theorem place_of_mem_columns {column : PlacedColumn α}
    (h : column ∈ (compute c config v rowCount).columns) :
  (column.slot.shownIndex? = none ∧ column.id.isSynthetic = true)
    ∨ ∃ i, column.slot = .shown i ∧ c.shown[i]? = some column.id
  := by
  obtain ⟨n, -, hplaces, -⟩ := exists_places_columns c config v rowCount
  have hplace : column.place ∈ (compute c config v rowCount).columns.map (·.place) :=
    List.mem_map_of_mem h
  rw [hplaces] at hplace
  obtain hplace | hscrolling := List.mem_append.mp hplace
  · obtain hsynthetic | hfixed := List.mem_append.mp hplace
    · exact .inl (synthetic_of_mem_syntheticPlaces hsynthetic)
    · obtain ⟨⟨_, i⟩, -, hi⟩ := List.mem_map.mp hfixed
      have hslot : column.slot = .shown i := (Prod.mk.inj hi).1.symm
      rw [PlacedColumn.place, hslot] at hfixed
      obtain ⟨-, hid⟩ := getElem?_of_mem_shownPlaces hfixed
      rw [List.getElem?_take] at hid
      split at hid
      · exact .inr ⟨i, hslot, hid⟩
      · cases hid
  · obtain ⟨⟨_, i⟩, -, hi⟩ := List.mem_map.mp hscrolling
    have hslot : column.slot = .shown i := (Prod.mk.inj hi).1.symm
    rw [PlacedColumn.place, hslot] at hscrolling
    obtain ⟨hle, hid⟩ := getElem?_of_mem_shownPlaces hscrolling
    rw [List.getElem?_take] at hid
    split at hid
    · rw [List.getElem?_drop, Nat.add_sub_cancel' hle] at hid
      exact .inr ⟨i, hslot, hid⟩
    · cases hid

theorem getElem?_shown_of_slot_eq {column : PlacedColumn α} {i : Nat}
    (hcolumn : column ∈ (compute c config v rowCount).columns) (hslot : column.slot = .shown i) :
  c.shown[i]? = some column.id
  := by
  obtain ⟨hnone, -⟩ | ⟨j, hj, hid⟩ := place_of_mem_columns hcolumn
  · rw [hslot] at hnone
    cases hnone
  · obtain rfl := Slot.shown.inj (hslot.symm.trans hj)
    apply hid

/-- A column on the screen is found in its slot. -/
theorem bySlot?_of_mem {column : PlacedColumn α}
    (h : column ∈ (compute c config v rowCount).columns) :
  (compute c config v rowCount).bySlot? column.slot = some column
  := by
  apply find?_eq_some_of_nodup_map (nodup_slot_columns c config v rowCount) h
  intro other
  apply decide_eq_true_iff

/-- A column on the screen is found by its identity if no column is shown twice. -/
theorem byId?_of_mem (hc : c.IsWellFormed) (hnodup : c.shown.Nodup) {column : PlacedColumn α}
    (h : column ∈ (compute c config v rowCount).columns) :
  (compute c config v rowCount).byId? column.id = some column
  := by
  apply find?_eq_some_of_nodup_map (nodup_id_columns hc hnodup config v rowCount) h
  intro other
  apply decide_eq_true_iff

omit [Pixel α] in
theorem mem_shownColumns {l : Layout α} {column : PlacedColumn α} {i : Nat}
    (h : column ∈ l.columns) (hslot : column.slot = .shown i) :
  column ∈ l.shownColumns
  := by
  apply List.mem_filter.mpr ⟨h, _⟩
  rw [hslot]
  rfl

omit [Pixel α] in
theorem slot_of_mem_shownColumns {l : Layout α} {column : PlacedColumn α}
    (h : column ∈ l.shownColumns) :
  column.slot = .shown (column.slot.shownIndex?.getD 0)
  := by
  obtain ⟨i, hi⟩ := Option.isSome_iff_exists.mp (List.mem_filter.mp h).2
  rw [hi]
  apply Slot.shownIndex?_eq_some.mp hi

/-! ### Rows -/

omit [Pixel α] in
/-- An item of a list that is numbered from zero stands where its number says. -/
theorem index_eq_of_getElem? {β : Type} {items : List β} {index : β → Nat}
    (h : items.map index = List.range items.length) {k : Nat} {x : β} (hx : items[k]? = some x) :
  index x = k
  := by
  obtain ⟨hk, -⟩ := List.getElem?_eq_some_iff.mp hx
  have hindex := congrArg (·[k]?) h
  simp only [List.getElem?_map, hx, List.getElem?_range hk] at hindex
  apply Option.some.inj hindex

/-- A row on the screen is found under its number. -/
theorem getElem?_rows_of_mem {row : PlacedRow α} (h : row ∈ (compute c config v rowCount).rows) :
  (compute c config v rowCount).rows[row.index]? = some row
  := by
  obtain ⟨k, hk⟩ := List.mem_iff_getElem?.mp h
  rw [index_eq_of_getElem? (numbered_rows c config v rowCount) hk, hk]

omit [Pixel α] in
theorem nodup_topPlaces (config : Config α) :
  (topPlaces config).Nodup
  := by
  apply List.nodup_append.mpr ⟨_, _, _⟩
  · apply List.nodup_range.map
    intro i j hij
    apply congrArg Prod.snd hij
  · split <;> simp
  · rintro p hp _ hfilter rfl
    obtain ⟨i, -, rfl⟩ := List.mem_map.mp hp
    split at hfilter
    · cases List.mem_singleton.mp hfilter
    · cases hfilter

omit [Pixel α] in
theorem band_ne_of_mem_topPlaces {p : Band × Nat} (hp : p ∈ topPlaces config) :
  p.1 ≠ .data
  := by
  obtain hheader | hfilter := List.mem_append.mp hp
  · obtain ⟨i, -, rfl⟩ := List.mem_map.mp hheader
    simp
  · split at hfilter
    · rw [List.mem_singleton.mp hfilter]
      simp
    · cases hfilter

theorem nodup_place_rows (c : Columns α) (config : Config α) (v : Viewport α)
    (rowCount : Nat) :
  ((compute c config v rowCount).rows.map (·.place)).Nodup
  := by
  obtain ⟨n, -, hplaces, -⟩ := exists_places_rows c config v rowCount
  rw [hplaces]
  apply List.nodup_append.mpr ⟨nodup_topPlaces config, _, _⟩
  · apply (nodup_range_append_range' (Nat.le_add_right _ _)).map
    intro i j hij
    apply congrArg Prod.snd hij
  · rintro p hp _ hdata rfl
    obtain ⟨i, -, rfl⟩ := List.mem_map.mp hdata
    apply band_ne_of_mem_topPlaces hp rfl

/-- A row on the screen is found by its band and its place in the band. -/
theorem byRow?_of_mem {row : PlacedRow α} (h : row ∈ (compute c config v rowCount).rows) :
  (compute c config v rowCount).byRow? row.row row.band = some row
  := by
  apply find?_eq_some_of_nodup_map (nodup_place_rows c config v rowCount) h
  intro other
  simp [PlacedRow.place]

/-- A data row on the screen is one of the rows of the table. -/
theorem row_lt_of_mem_rows {row : PlacedRow α} (h : row ∈ (compute c config v rowCount).rows)
    (hband : row.band = .data) :
  row.row < rowCount
  := by
  obtain ⟨n, hn, hplaces, -⟩ := exists_places_rows c config v rowCount
  have hplace : row.place ∈ (compute c config v rowCount).rows.map (·.place) :=
    List.mem_map_of_mem h
  rw [hplaces] at hplace
  obtain htop | hdata := List.mem_append.mp hplace
  · exact absurd hband (band_ne_of_mem_topPlaces htop)
  · obtain ⟨i, hi, hplace⟩ := List.mem_map.mp hdata
    obtain rfl : i = row.row := congrArg Prod.snd hplace
    obtain hfixed | hscrolling := List.mem_append.mp hi
    · have hlt := List.mem_range.mp hfixed
      omega
    · obtain ⟨hle, hlt⟩ := List.mem_range'_1.mp hscrolling
      omega

end Layout

end DataGrid
