import DataGrid.Proofs.Frame.Starts
import DataGrid.Proofs.Model.Coherence
import DataGrid.Proofs.Scene.Spaces

/-!
# Fixing columns on the screen

On a grid that is not scrolled to the right, a column on the screen starts behind all columns in
front of it, whether they are fixed or not.  So another number of fixed columns leaves it where it
is, and if no more columns are fixed than stand in front of the last one on the screen, the first one
behind the fixed ones is on the screen (`Frame.leavesScrolling_of_le`).
-/

namespace DataGrid

namespace Layout

section Parts

variable {α : Type} [Pixel α]

/-- A column that scrolls is placed only if it begins in front of the limit. -/
theorem not_limit_le_of_mem_placeColumns {limit : α} {column : PlacedColumn α} :
  ∀ {plans : List (ColumnPlan α)} {index : Nat} {x : α}, (∀ p ∈ plans, p.scrolls = true) →
    column ∈ placeColumns limit index x plans → ¬ limit ≤ column.left
  | [], _, _, _, h => by cases h
  | p :: rest, index, x, hscrolls, h => by
    rw [placeColumns] at h
    split at h
    case isTrue => cases h
    case isFalse hgoes =>
      obtain rfl | h := List.mem_cons.mp h
      · intro hlimit
        apply hgoes ⟨hscrolls p List.mem_cons_self, hlimit⟩
      · apply not_limit_le_of_mem_placeColumns (fun q hq => hscrolls q (List.mem_cons_of_mem p hq)) h

variable (c : Columns α) (config : Config α) (v : Viewport α)

theorem id_fixedPart :
  (fixedPart c config v).map (·.id) = c.shown.take (min config.fixedColumns c.shownCount)
  := by
  have hstanding : ∀ p ∈ shownPlans c false 0 (c.shown.take (min config.fixedColumns c.shownCount)),
      p.scrolls = false := fun p hp => scrolls_of_mem_shownPlans hp
  obtain ⟨n, -, hplaces, -⟩ := exists_place_placeColumns_append v.width []
    (syntheticPlans c config).length (leadingWidth c config) hstanding
  rw [List.take_nil, List.append_nil, place_shownPlans] at hplaces
  have hids := congrArg (List.map Prod.snd) hplaces
  rw [List.map_map, id_shownPlaces] at hids
  exact hids

end Parts

/-! ### The last column -/

/-- The index of the last shown column on the screen. -/
def lastShown? {α : Type} (l : Layout α) : Option Nat :=
  l.shownColumns.getLast?.bind fun column => column.slot.shownIndex?

/-- The indexes of the columns on the screen increase. -/
theorem pairwise_range_append_range' (fixed hidden n : Nat) :
  (List.range fixed ++ List.range' (fixed + hidden) n).Pairwise (· ≤ ·)
  := by
  apply List.pairwise_append.mpr
  refine ⟨List.pairwise_lt_range.imp Nat.le_of_lt,
    List.Pairwise.imp Nat.le_of_lt List.pairwise_lt_range', ?_⟩
  intro i hi j hj
  have hlt := List.mem_range.mp hi
  have hle := (List.mem_range'_1.mp hj).1
  omega

section Last

variable {α : Type} [Pixel α] {c : Columns α} {config : Config α} {v : Viewport α} {rowCount : Nat}

/-- No shown column on the screen stands behind the last one. -/
theorem le_lastShown? {last i : Nat} (hlast : (compute c config v rowCount).lastShown? = some last)
    {column : PlacedColumn α} (hcolumn : column ∈ (compute c config v rowCount).columns)
    (hslot : column.slot = .shown i) :
  i ≤ last
  := by
  obtain ⟨n, -, hslots, -⟩ := slot_shownColumns c config v rowCount
  obtain ⟨column', hcolumn', hlastSlot⟩ := Option.bind_eq_some_iff.mp hlast
  have hmem : i ∈ List.range (min config.fixedColumns c.shownCount)
      ++ List.range' (min config.fixedColumns c.shownCount + v.scrollLeft) n := by
    have hslot' : column.slot ∈ (compute c config v rowCount).shownColumns.map (·.slot) :=
      List.mem_map_of_mem (mem_shownColumns hcolumn hslot)
    rw [hslots, hslot] at hslot'
    obtain ⟨j, hj, heq⟩ := List.mem_map.mp hslot'
    obtain rfl := Slot.shown.inj heq
    exact hj
  have hend : (List.range (min config.fixedColumns c.shownCount)
      ++ List.range' (min config.fixedColumns c.shownCount + v.scrollLeft) n).getLast?
        = some last := by
    have hslot' := congrArg List.getLast? hslots
    rw [List.getLast?_map, List.getLast?_map, hcolumn', Option.map_some,
      Slot.shownIndex?_eq_some.mp hlastSlot] at hslot'
    obtain ⟨j, hj, heq⟩ := Option.map_eq_some_iff.mp hslot'.symm
    obtain rfl := Slot.shown.inj heq
    exact hj
  have hle := (pairwise_range_append_range' _ v.scrollLeft n).rel_getLast hmem
  rw [List.getLast?_eq_some_getLast (List.ne_nil_of_mem hmem)] at hend
  rw [← Option.some.inj hend]
  exact hle

omit [Pixel α] in
/-- The last shown column is on the screen, if any shown column is. -/
theorem exists_lastShown? {l : Layout α} {column : PlacedColumn α} (hcolumn : column ∈ l.columns)
    {i : Nat} (hslot : column.slot = .shown i) :
  ∃ last, l.lastShown? = some last ∧ ∃ column ∈ l.columns, column.slot = .shown last
  := by
  have hshown := List.ne_nil_of_mem (mem_shownColumns hcolumn hslot)
  obtain ⟨column', hlast⟩ := Option.ne_none_iff_exists'.mp
    (mt List.getLast?_eq_none_iff.mp hshown)
  obtain ⟨hmem, hsome⟩ := List.mem_filter.mp (List.mem_of_getLast? hlast)
  obtain ⟨last, hindex⟩ := Option.isSome_iff_exists.mp hsome
  refine ⟨last, ?_, column', hmem, Slot.shownIndex?_eq_some.mp hindex⟩
  rw [lastShown?, hlast]
  exact hindex

end Last

/-! ### Columns that start in view -/

section Starts

variable {c : Columns Rat} {config : Config Rat} {v : Viewport Rat} {rowCount i : Nat}

/-- On a grid that is not scrolled to the right, a column that scrolls stands where the columns in
front of it end, and this is inside the viewport. -/
theorem left_of_not_scrolled (hv : v.scrollLeft = 0) {column : PlacedColumn Rat}
    (hcolumn : column ∈ (compute c config v rowCount).columns) (hslot : column.slot = .shown i)
    (hfixed : min config.fixedColumns c.shownCount ≤ i) :
  column.left = leadingWidth c config + c.widthBefore i ∧ column.left < v.width
  := by
  obtain ⟨-, -, hleft, -⟩ := left_of_mem_columns hcolumn hslot
  have hoffset : Axis.offset c.widthBefore (min config.fixedColumns c.shownCount) v.scrollLeft i
      = c.widthBefore i := by
    rw [hv, Axis.offset_of_le hfixed, Nat.add_zero, add_sub_cancel]
  rw [hoffset] at hleft
  refine ⟨hleft, ?_⟩
  rw [columns_eq_parts] at hcolumn
  obtain hsynthetic | hshown := List.mem_append.mp hcolumn
  · have hnone := shownIndex?_of_mem_syntheticPart hsynthetic
    rw [hslot] at hnone
    cases hnone
  · obtain hstands | hscrolls := List.mem_append.mp hshown
    · obtain ⟨g, hg, hslot', -⟩ := left_of_mem_fixedPart hstands
      obtain rfl := Slot.shown.inj (hslot.symm.trans hslot')
      cases Nat.not_lt_of_le hfixed hg
    · apply not_le.mp
      apply not_limit_le_of_mem_placeColumns (fun p hp => scrolls_of_mem_shownPlans hp) hscrolls

/-- A column that does not start behind the edge of the viewport is on the screen. -/
theorem exists_column_of_widthBefore_lt (rowCount : Nat) (h : c.HasWidths)
    (hv : v.scrollLeft = 0)
    (hfixed : min config.fixedColumns c.shownCount ≤ i) (hi : i < c.shownCount)
    (hwidth : leadingWidth c config + c.widthBefore i < v.width) :
  ∃ column ∈ (compute c config v rowCount).columns, column.slot = .shown i
    ∧ column.left < v.width
  := by
  have hfirst : min config.fixedColumns c.shownCount + v.scrollLeft ≤ i := by
    rw [hv]
    exact hfixed
  obtain ⟨column, hcolumn, hslot⟩ | hlimit := exists_column_or_width_le
    (fun id _ => h.widthOf_nonneg id) config v rowCount hfirst hi
  · exact ⟨column, hcolumn, hslot, (left_of_not_scrolled hv hcolumn hslot hfixed).2⟩
  · rw [hv, Axis.offset_of_le hfixed, Nat.add_zero, add_sub_cancel] at hlimit
    cases not_lt.mpr hlimit hwidth

end Starts

end Layout

namespace Frame

/-- Some columns are fixed, the first of those that are shown, and one on the screen is left that
scrolls.  None is scrolled out. -/
structure LeavesScrolling (f : Frame Rat) : Prop where
  fixedColumns_lt : f.config.fixedColumns < f.columns.shownCount
  scrolling : ∃ column ∈ f.layout.columns, ∃ i, column.slot = .shown i
    ∧ f.config.fixedColumns ≤ i ∧ column.left < f.viewport.width
  scrollLeft_eq : f.viewport.scrollLeft = 0
  fixed_eq : (f.layout.columns.filter fun column => f.isFixed column.slot).map (·.id)
    = f.columns.shown.take f.config.fixedColumns

/-- Notices do not concern the columns on the screen. -/
theorem leavesScrolling_silent_iff {f : Frame Rat} :
  f.silent.LeavesScrolling ↔ f.LeavesScrolling
  := by
  constructor
  · intro h
    exact ⟨h.fixedColumns_lt, h.scrolling, h.scrollLeft_eq, h.fixed_eq⟩
  · intro h
    exact ⟨h.fixedColumns_lt, h.scrolling, h.scrollLeft_eq, h.fixed_eq⟩

/-- When a column on the screen scrolls and none is scrolled out, columns can be fixed up to the
last one on the screen, and one that scrolls is left. -/
theorem leavesScrolling_of_le {f f' : Frame Rat} {rowCount : Nat} (hwidths : f.columns.HasWidths)
    (hl : f.layout = .compute f.columns f.config f.viewport rowCount)
    (hv : f.viewport.scrollLeft = 0) {column : PlacedColumn Rat}
    (hcolumn : column ∈ f.layout.columns) {i : Nat} (hslot : column.slot = .shown i)
    (hfixed : f.fixedColumns ≤ i) {last count : Nat} (hlast : f.layout.lastShown? = some last)
    (hcount : count ≤ last) (hcolumns : f'.columns = f.columns)
    (hconfig : f'.config = { f.config with fixedColumns := min count f.columns.shownCount })
    (hl' : f'.layout = .compute f'.columns f'.config f'.viewport rowCount)
    (hv' : f'.viewport.scrollLeft = 0) (hwidth : f'.viewport.width = f.viewport.width) :
  f'.LeavesScrolling
  := by
  obtain ⟨last', hlast', column', hcolumn', hslot'⟩ := Layout.exists_lastShown? hcolumn hslot
  obtain rfl := Option.some.inj (hlast'.symm.trans hlast)
  rw [hl] at hcolumn hcolumn' hlast
  have hle : i ≤ last' := Layout.le_lastShown? hlast hcolumn hslot
  obtain ⟨-, hlt, -⟩ := Layout.left_of_mem_columns hcolumn' hslot'
  obtain ⟨hleft, hinside⟩ :=
    Layout.left_of_not_scrolled hv hcolumn' hslot' (Nat.le_trans hfixed hle)
  have hcountLt : count < f.columns.shownCount := Nat.lt_of_le_of_lt hcount hlt
  rw [Nat.min_eq_left (Nat.le_of_lt hcountLt)] at hconfig
  have hmin : min f'.config.fixedColumns f'.columns.shownCount = count := by
    rw [hconfig, hcolumns]
    apply Nat.min_eq_left (Nat.le_of_lt hcountLt)
  have hstart : leadingWidth f'.columns f'.config + f'.columns.widthBefore count
      < f'.viewport.width := by
    have hbefore := hwidths.monotone_widthBefore hcount
    have hleading : leadingWidth f'.columns f'.config = leadingWidth f.columns f.config := by
      rw [hcolumns, hconfig]
      rfl
    rw [hleading, hcolumns, hwidth]
    linarith
  have hcount_eq : f'.config.fixedColumns = count := by rw [hconfig]
  obtain ⟨next, hnext, hnextSlot, hnextLeft⟩ :=
    Layout.exists_column_of_widthBefore_lt rowCount (hcolumns ▸ hwidths) hv'
      (Nat.le_of_eq hmin) (hcolumns ▸ hcountLt) hstart
  constructor
  case fixedColumns_lt =>
    rw [hcount_eq, hcolumns]
    exact hcountLt
  case scrolling =>
    rw [hl']
    exact ⟨next, hnext, count, hnextSlot, Nat.le_of_eq hcount_eq, hnextLeft⟩
  case scrollLeft_eq => apply hv'
  case fixed_eq =>
    rw [filter_isFixed_columns hl', Layout.id_fixedPart, hmin, hcount_eq]

end Frame

end DataGrid
