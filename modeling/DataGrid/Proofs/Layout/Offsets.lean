import Mathlib.Algebra.Order.BigOperators.Group.List
import Mathlib.Algebra.Order.Ring.Rat
import Mathlib.Tactic.Linarith
import DataGrid.Proofs.Layout.Axis
import DataGrid.Proofs.Layout.InOrder

/-!
# Offsets of columns

With exact lengths the left edge of a column on the screen is a sum of widths.  Each part of the
layout, the synthetic columns, the fixed ones and those that scroll, begins at the right edge of
the part in front of it, and a column stands as far from that edge as the columns in front of it
in its part are wide together (`left_of_mem_placeColumns`).  A column that is left out would have
begun at the limit or beyond it (`placed_or_limit_le`).
-/

namespace DataGrid

theorem Pixel.sum_eq (lengths : List Rat) :
  Pixel.sum lengths = lengths.sum
  := (List.sum_eq_foldl).symm

namespace Columns

/-- The width that a column takes up; one that does not exist takes up none. -/
def widthOf (c : Columns Rat) (id : ColumnId) : Rat :=
  ((c.column? id).map (·.width)).getD Pixel.zero

/-- How wide some columns are together. -/
def totalWidth (c : Columns Rat) (ids : List ColumnId) : Rat := (ids.map c.widthOf).sum

/-- No column has a negative width. -/
def HasWidths (c : Columns Rat) : Prop := ∀ id d, c.column? id = some d → 0 ≤ d.width

theorem HasWidths.hasLengths {c : Columns Rat} (h : c.HasWidths) :
  c.HasLengths
  := h

theorem HasWidths.congr {c c' : Columns Rat} (h : c.HasWidths) (hc : c'.column? = c.column?) :
  c'.HasWidths
  := by
  rw [HasWidths, hc]
  exact h

/-- Every column has a width greater than none. -/
def HasPositiveWidths (c : Columns Rat) : Prop := ∀ id d, c.column? id = some d → 0 < d.width

theorem HasPositiveWidths.hasWidths {c : Columns Rat} (h : c.HasPositiveWidths) :
  c.HasWidths
  := fun id d hd => le_of_lt (h id d hd)

/-- Every shown column exists and has a width greater than none. -/
def ShowsWidths (c : Columns Rat) : Prop := ∀ id ∈ c.shown, 0 < c.widthOf id

/-- With the default settings new columns can be seen. -/
theorem hasPositiveWidths_ofSchema_default (schema : List ColumnSchema) :
  (ofSchema schema (Config.default : Config Rat)).HasPositiveWidths
  := by
  intro id d hd
  cases id with
  | rowHandle =>
    change ((empty _).reset _ _).column? .rowHandle = some d at hd
    rw [reset, column?_noteShown] at hd
    obtain rfl := Option.some.inj hd
    change 0 < (handleColumn (Config.default : Config Rat)).bound 40
    decide
  | tree =>
    change ((empty _).reset _ _).column? .tree = some d at hd
    rw [reset, column?_noteShown] at hd
    obtain rfl := Option.some.inj hd
    change 0 < (treeColumn (Config.default : Config Rat)).bound 20
    decide
  | data i =>
    change ((empty _).reset _ _).data[i]? = some d at hd
    rw [getElem?_data_reset] at hd
    obtain ⟨s, -, rfl⟩ := Option.map_eq_some_iff.mp hd
    change (0 : Rat) < 100
    decide

section TotalWidth

variable (c : Columns Rat)

theorem totalWidth_nil :
  c.totalWidth [] = 0
  := rfl

theorem totalWidth_cons (id : ColumnId) (ids : List ColumnId) :
  c.totalWidth (id :: ids) = c.widthOf id + c.totalWidth ids
  := List.sum_cons

theorem totalWidth_append (ids ids' : List ColumnId) :
  c.totalWidth (ids ++ ids') = c.totalWidth ids + c.totalWidth ids'
  := by
  rw [totalWidth, List.map_append, List.sum_append]
  rfl

variable {c}

theorem HasWidths.widthOf_nonneg (h : c.HasWidths) (id : ColumnId) :
  0 ≤ c.widthOf id
  := by
  rw [widthOf]
  cases hd : c.column? id with
  | none => apply le_refl
  | some d => apply h id d hd

theorem totalWidth_nonneg {ids : List ColumnId} (h : ∀ id ∈ ids, 0 ≤ c.widthOf id) :
  0 ≤ c.totalWidth ids
  := by
  apply List.sum_nonneg
  intro w hw
  obtain ⟨id, hid, rfl⟩ := List.mem_map.mp hw
  apply h id hid

theorem HasWidths.totalWidth_nonneg (h : c.HasWidths) (ids : List ColumnId) :
  0 ≤ c.totalWidth ids
  := Columns.totalWidth_nonneg fun id _ => h.widthOf_nonneg id

theorem HasPositiveWidths.showsWidths (h : c.HasPositiveWidths) (hc : c.IsWellFormed) :
  c.ShowsWidths
  := by
  intro id hid
  obtain ⟨i, hi, rfl⟩ := hc.exists_of_mem id hid
  have hd : c.column? (.data i) = some c.data[i] := Array.getElem?_eq_getElem hi
  rw [widthOf, hd]
  apply h _ _ hd

/-- How wide the shown columns in front of an index are together. -/
def widthBefore (c : Columns Rat) (i : Nat) : Rat := c.totalWidth (c.shown.take i)

theorem totalWidth_take_drop (c : Columns Rat) (i count : Nat) :
  c.totalWidth ((c.shown.drop i).take count) = c.widthBefore (i + count) - c.widthBefore i
  := by
  rw [widthBefore, widthBefore, List.take_add, totalWidth_append]
  linarith

theorem monotone_widthBefore (h : ∀ id ∈ c.shown, 0 ≤ c.widthOf id) :
  Monotone c.widthBefore
  := by
  intro i j hij
  obtain ⟨count, rfl⟩ := Nat.exists_eq_add_of_le hij
  have hbetween : 0 ≤ c.totalWidth ((c.shown.drop i).take count) := totalWidth_nonneg fun id hid =>
    h id (List.mem_of_mem_drop (List.mem_of_mem_take hid))
  rw [totalWidth_take_drop] at hbetween
  linarith

theorem HasWidths.monotone_widthBefore (h : c.HasWidths) :
  Monotone c.widthBefore
  := Columns.monotone_widthBefore fun id _ => h.widthOf_nonneg id

theorem ShowsWidths.monotone_widthBefore (h : c.ShowsWidths) :
  Monotone c.widthBefore
  := Columns.monotone_widthBefore fun id hid => le_of_lt (h id hid)

theorem widthBefore_succ {i : Nat} {id : ColumnId} (hid : c.shown[i]? = some id) :
  c.widthBefore (i + 1) = c.widthBefore i + c.widthOf id
  := by
  rw [widthBefore, List.take_add_one, hid, totalWidth_append, ← widthBefore, Option.toList_some,
    totalWidth_cons, totalWidth_nil, add_zero]

theorem ShowsWidths.widthBefore_lt (h : c.ShowsWidths) {i j : Nat} (hij : i < j)
    (hj : j ≤ c.shownCount) :
  c.widthBefore i < c.widthBefore j
  := by
  have hi : i < c.shown.length := Nat.lt_of_lt_of_le hij hj
  have hid : c.shown[i]? = some c.shown[i] := List.getElem?_eq_getElem hi
  have hpos := h _ (List.mem_of_getElem? hid)
  have hnext := h.monotone_widthBefore hij
  rw [Nat.succ_eq_add_one, widthBefore_succ hid] at hnext
  linarith

end TotalWidth

end Columns

namespace Layout

/-! ### Parts of the screen -/

section Parts

variable {α : Type} [Pixel α]

/-- Columns that do not scroll are all placed, and the others begin at their right edge. -/
theorem placeColumns_append (limit : α) {standing : List (ColumnPlan α)}
    (scrolling : List (ColumnPlan α)) :
  ∀ (index : Nat) (x : α), (∀ p ∈ standing, p.scrolls = false) →
    placeColumns limit index x (standing ++ scrolling)
      = placeColumns limit index x standing
          ++ placeColumns limit (index + standing.length)
              (rightEdgeFrom x (placeColumns limit index x standing)) scrolling
  := by
  induction standing with
  | nil =>
    intro index x _
    rfl
  | cons p rest ih =>
    intro index x hstanding
    have hgoes : ¬ (p.scrolls = true ∧ limit ≤ x) := by
      rw [hstanding p List.mem_cons_self]
      simp
    have hrest := ih (index + 1) (x + p.width) fun q hq =>
      hstanding q (List.mem_cons_of_mem p hq)
    rw [List.cons_append, placeColumns, if_neg hgoes, hrest, placeColumns, if_neg hgoes,
      List.cons_append, rightEdgeFrom_cons, List.length_cons, Nat.add_assoc, Nat.add_comm 1]
    rfl

variable (c : Columns α) (config : Config α) (v : Viewport α)

/-- The synthetic columns on the screen. -/
def syntheticPart : List (PlacedColumn α) :=
  placeColumns v.width 0 Pixel.zero (syntheticPlans c config)

theorem rightEdgeFrom_syntheticPart :
  rightEdgeFrom Pixel.zero (syntheticPart c config v) = leadingWidth c config
  := by
  rw [syntheticPart, syntheticPlans, leadingWidth]
  cases config.showRowHandle <;> cases config.showTree <;> rfl

variable {c config v} in
theorem shownIndex?_of_mem_syntheticPart {column : PlacedColumn α}
    (h : column ∈ syntheticPart c config v) :
  column.slot.shownIndex? = none
  := by
  obtain ⟨p, hp, hslot⟩ := exists_plan_of_mem_placeColumns h
  rw [← hslot]
  apply not_shown_of_mem_syntheticPlans hp

/-- What is placed by the plans for shown columns is a shown column. -/
theorem isSome_shownIndex?_of_mem_shownPart {c : Columns α} {scrolls : Bool} {first index : Nat}
    {ids : List ColumnId} {limit x : α} {column : PlacedColumn α}
    (h : column ∈ placeColumns limit index x (shownPlans c scrolls first ids)) :
  column.slot.shownIndex?.isSome = true
  := by
  obtain ⟨p, hp, hslot⟩ := exists_plan_of_mem_placeColumns h
  obtain ⟨_, _, rfl⟩ := List.mem_map.mp hp
  rw [← hslot]
  rfl

/-- The fixed columns on the screen. -/
def fixedPart : List (PlacedColumn α) :=
  placeColumns v.width (syntheticPlans c config).length (leadingWidth c config)
    (shownPlans c false 0 (c.shown.take (min config.fixedColumns c.shownCount)))

/-- The columns on the screen that scroll. -/
def scrollingPart : List (PlacedColumn α) :=
  let fixed := min config.fixedColumns c.shownCount
  let first := fixed + v.scrollLeft
  placeColumns v.width ((syntheticPlans c config).length + fixed)
    (rightEdgeFrom (leadingWidth c config) (fixedPart c config v))
    (shownPlans c true first (c.shown.drop first))

/-- The fixed columns and those that scroll are placed side by side. -/
theorem fixedPart_append_scrollingPart :
  fixedPart c config v ++ scrollingPart c config v
    = placeColumns v.width (syntheticPlans c config).length (leadingWidth c config)
        (shownPlans c false 0 (c.shown.take (min config.fixedColumns c.shownCount))
          ++ shownPlans c true (min config.fixedColumns c.shownCount + v.scrollLeft)
            (c.shown.drop (min config.fixedColumns c.shownCount + v.scrollLeft)))
  := by
  have hlength : (shownPlans c false 0
      (c.shown.take (min config.fixedColumns c.shownCount))).length
        = min config.fixedColumns c.shownCount := by
    rw [shownPlans, List.length_map, List.length_zipIdx, List.length_take]
    apply Nat.min_eq_left (Nat.min_le_right _ _)
  rw [placeColumns_append _ _ _ _ fun p hp => scrolls_of_mem_shownPlans hp, hlength]
  rfl

/-- The parts of the screen, each beginning where the one in front of it ends. -/
theorem columns_eq_parts (rowCount : Nat) :
  (compute c config v rowCount).columns
    = syntheticPart c config v ++ (fixedPart c config v ++ scrollingPart c config v)
  := by
  change placeColumns v.width 0 Pixel.zero (columnPlans c config v) = _
  rw [columnPlans, List.append_assoc,
    placeColumns_append _ _ _ _ fun p hp => scrolls_of_mem_syntheticPlans hp,
    ← syntheticPart, rightEdgeFrom_syntheticPart, fixedPart_append_scrollingPart, Nat.zero_add]

/-- The shown columns on the screen are those behind the synthetic ones. -/
theorem shownColumns_eq_parts (rowCount : Nat) :
  (compute c config v rowCount).shownColumns = fixedPart c config v ++ scrollingPart c config v
  := by
  have hsynthetic : (syntheticPart c config v).filter (fun column => column.slot.shownIndex?.isSome)
      = [] := by
    apply List.filter_eq_nil_iff.mpr
    intro column hcolumn
    rw [shownIndex?_of_mem_syntheticPart hcolumn]
    exact Bool.false_ne_true
  have hshown : (fixedPart c config v ++ scrollingPart c config v).filter
      (fun column => column.slot.shownIndex?.isSome)
        = fixedPart c config v ++ scrollingPart c config v := by
    apply List.filter_eq_self.mpr
    intro column hcolumn
    obtain hfixed | hscrolling := List.mem_append.mp hcolumn
    · apply isSome_shownIndex?_of_mem_shownPart hfixed
    · apply isSome_shownIndex?_of_mem_shownPart hscrolling
  rw [shownColumns, columns_eq_parts, List.filter_append, hsynthetic, hshown, List.nil_append]

theorem slot_fixedPart :
  (fixedPart c config v).map (·.slot)
    = (List.range (min config.fixedColumns c.shownCount)).map Slot.shown
  := by
  have hstanding : ∀ p ∈ shownPlans c false 0 (c.shown.take (min config.fixedColumns c.shownCount)),
      p.scrolls = false := fun p hp => scrolls_of_mem_shownPlans hp
  obtain ⟨n, hn, hplaces, -⟩ := exists_place_placeColumns_append v.width []
    (syntheticPlans c config).length (leadingWidth c config) hstanding
  rw [List.take_nil, List.append_nil, place_shownPlans] at hplaces
  have hslots := congrArg (List.map Prod.fst) hplaces
  rw [List.map_map, slot_shownPlaces, List.length_take, ← List.range_eq_range',
    ← Columns.shownCount, Nat.min_eq_left (Nat.min_le_right _ _)] at hslots
  exact hslots

end Parts

/-! ### Offsets -/

section Offsets

variable {c : Columns Rat}

theorem shownPlans_cons (c : Columns Rat) (scrolls : Bool) (first : Nat) (id : ColumnId)
    (ids : List ColumnId) :
  shownPlans c scrolls first (id :: ids)
    = ⟨.shown first, id, c.widthOf id, scrolls⟩ :: shownPlans c scrolls (first + 1) ids
  := rfl

/-- A column on the screen stands as far from the beginning of its part as the columns in front of
it are wide together. -/
theorem left_of_mem_placeColumns {column : PlacedColumn Rat} {limit : Rat} {scrolls : Bool}
    {ids : List ColumnId} :
  ∀ {index first : Nat} {x : Rat},
    column ∈ placeColumns limit index x (shownPlans c scrolls first ids) →
      ∃ j < ids.length, column.slot = .shown (first + j)
        ∧ column.left = x + c.totalWidth (ids.take j) ∧ column.width = c.widthOf column.id
  := by
  induction ids with
  | nil =>
    intro index first x h
    cases h
  | cons id rest ih =>
    intro index first x h
    rw [shownPlans_cons, placeColumns] at h
    split at h
    case isTrue => cases h
    case isFalse =>
      obtain rfl | hrest := List.mem_cons.mp h
      · refine ⟨0, Nat.succ_pos _, rfl, ?_, rfl⟩
        rw [List.take_zero, Columns.totalWidth_nil, add_zero]
      · obtain ⟨j, hj, hslot, hleft, hwidth⟩ := ih hrest
        refine ⟨j + 1, Nat.succ_lt_succ hj, ?_, ?_, hwidth⟩
        · rw [hslot, Nat.add_assoc, Nat.add_comm 1]
        · rw [hleft, List.take_succ_cons, Columns.totalWidth_cons, ← add_assoc]

/-- A column is placed, or it would have begun at the limit or beyond it. -/
theorem placed_or_limit_le (limit : Rat) (scrolls : Bool) {ids : List ColumnId}
    (h : ∀ id ∈ ids, 0 ≤ c.widthOf id) :
  ∀ {j index first : Nat} {x : Rat}, j < ids.length →
    (∃ column ∈ placeColumns limit index x (shownPlans c scrolls first ids),
        column.slot = .shown (first + j))
      ∨ scrolls = true ∧ limit ≤ x + c.totalWidth (ids.take j)
  := by
  induction ids with
  | nil =>
    intro j index first x hj
    cases hj
  | cons id rest ih =>
    intro j index first x hj
    rw [shownPlans_cons, placeColumns]
    split
    case isTrue hstop =>
      have hnonneg : 0 ≤ c.totalWidth ((id :: rest).take j) :=
        Columns.totalWidth_nonneg fun id' hid => h id' (List.mem_of_mem_take hid)
      right
      exact ⟨hstop.1, by linarith [hstop.2]⟩
    case isFalse =>
      cases j with
      | zero => exact .inl ⟨_, List.mem_cons_self, rfl⟩
      | succ j =>
        obtain ⟨column, hcolumn, hslot⟩ | ⟨hscrolls, hlimit⟩ :=
          ih (fun id' hid => h id' (List.mem_cons_of_mem id hid)) (Nat.lt_of_succ_lt_succ hj)
        · left
          refine ⟨column, List.mem_cons_of_mem _ hcolumn, ?_⟩
          rw [hslot, Nat.add_assoc, Nat.add_comm 1]
        · right
          rw [List.take_succ_cons, Columns.totalWidth_cons, ← add_assoc]
          exact ⟨hscrolls, hlimit⟩

theorem rightEdgeFrom_placeColumns (c : Columns Rat) (limit : Rat) (ids : List ColumnId) :
  ∀ (index first : Nat) (x : Rat),
    rightEdgeFrom x (placeColumns limit index x (shownPlans c false first ids))
      = x + c.totalWidth ids
  := by
  induction ids with
  | nil =>
    intro index first x
    exact (add_zero x).symm
  | cons id rest ih =>
    intro index first x
    have hgoes : ¬ (false = true ∧ limit ≤ x) := by simp
    rw [shownPlans_cons, placeColumns, if_neg hgoes, rightEdgeFrom_cons, Columns.totalWidth_cons,
      ← add_assoc]
    apply ih

variable {config : Config Rat} {v : Viewport Rat} {column : PlacedColumn Rat}

theorem rightEdgeFrom_fixedPart (c : Columns Rat) (config : Config Rat) (v : Viewport Rat) :
  rightEdgeFrom (leadingWidth c config) (fixedPart c config v)
    = leadingWidth c config + c.totalWidth (c.shown.take (min config.fixedColumns c.shownCount))
  := by
  apply rightEdgeFrom_placeColumns

theorem left_of_mem_fixedPart (h : column ∈ fixedPart c config v) :
  ∃ g < min config.fixedColumns c.shownCount, column.slot = .shown g
    ∧ column.left = leadingWidth c config + c.totalWidth (c.shown.take g)
    ∧ column.width = c.widthOf column.id
  := by
  obtain ⟨g, hg, hslot, hleft, hwidth⟩ := left_of_mem_placeColumns h
  rw [List.length_take] at hg
  have hfixed : g < min config.fixedColumns c.shownCount :=
    Nat.lt_of_lt_of_le hg (Nat.min_le_left _ _)
  rw [List.take_take, Nat.min_eq_left (Nat.le_of_lt hfixed)] at hleft
  rw [Nat.zero_add] at hslot
  exact ⟨g, hfixed, hslot, hleft, hwidth⟩

theorem left_of_mem_scrollingPart (h : column ∈ scrollingPart c config v) :
  let fixed := min config.fixedColumns c.shownCount
  let first := fixed + v.scrollLeft
  ∃ g, first ≤ g ∧ g < c.shownCount ∧ column.slot = .shown g
    ∧ column.left = leadingWidth c config + c.totalWidth (c.shown.take fixed)
        + c.totalWidth ((c.shown.drop first).take (g - first))
    ∧ column.width = c.widthOf column.id
  := by
  intro fixed first
  obtain ⟨j, hj, hslot, hleft, hwidth⟩ := left_of_mem_placeColumns h
  rw [rightEdgeFrom_fixedPart] at hleft
  rw [List.length_drop] at hj
  refine ⟨first + j, Nat.le_add_right _ _, ?_, hslot, ?_, hwidth⟩
  · rw [Columns.shownCount]
    omega
  · rw [Nat.add_sub_cancel_left]
    exact hleft

/-- A shown column on the screen is as wide as it is among all columns, and it stands at its offset
from the synthetic columns. -/
theorem left_of_mem_columns {rowCount i : Nat}
    (h : column ∈ (compute c config v rowCount).columns) (hslot : column.slot = .shown i) :
  let fixed := min config.fixedColumns c.shownCount
  Axis.Stands fixed v.scrollLeft i ∧ i < c.shownCount
    ∧ column.left = leadingWidth c config + Axis.offset c.widthBefore fixed v.scrollLeft i
    ∧ column.width = c.widthOf column.id
  := by
  intro fixed
  rw [columns_eq_parts] at h
  obtain hsynthetic | hshown := List.mem_append.mp h
  · have hnone := shownIndex?_of_mem_syntheticPart hsynthetic
    rw [hslot] at hnone
    cases hnone
  · obtain hfixed | hscrolling := List.mem_append.mp hshown
    · obtain ⟨g, hg, hslot', hleft, hwidth⟩ := left_of_mem_fixedPart hfixed
      obtain rfl := Slot.shown.inj (hslot.symm.trans hslot')
      rw [Axis.offset_of_lt hg]
      exact ⟨.inl hg, Nat.lt_of_lt_of_le hg (Nat.min_le_right _ _), hleft, hwidth⟩
    · obtain ⟨g, hfirst, hg, hslot', hleft, hwidth⟩ := left_of_mem_scrollingPart hscrolling
      obtain rfl := Slot.shown.inj (hslot.symm.trans hslot')
      rw [Columns.totalWidth_take_drop, Nat.add_sub_cancel' hfirst, add_assoc] at hleft
      rw [Axis.offset_of_le hfirst]
      exact ⟨.inr hfirst, hg, hleft, hwidth⟩

/-- A column that is not scrolled out is on the screen, or it would have begun at the edge of the
viewport or beyond it. -/
theorem exists_column_or_width_le (h : ∀ id ∈ c.shown, 0 ≤ c.widthOf id) (config : Config Rat)
    (v : Viewport Rat) (rowCount : Nat) {i : Nat}
    (hi : min config.fixedColumns c.shownCount + v.scrollLeft ≤ i) (hcount : i < c.shownCount) :
  (∃ column ∈ (compute c config v rowCount).columns, column.slot = .shown i)
    ∨ v.width ≤ leadingWidth c config
        + Axis.offset c.widthBefore (min config.fixedColumns c.shownCount) v.scrollLeft i
  := by
  have hlength : i - (min config.fixedColumns c.shownCount + v.scrollLeft)
      < (c.shown.drop (min config.fixedColumns c.shownCount + v.scrollLeft)).length := by
    rw [List.length_drop]
    apply Nat.sub_lt_sub_right hi hcount
  obtain ⟨column, hcolumn, hslot⟩ | ⟨-, hlimit⟩ := placed_or_limit_le v.width true
    (fun id hid => h id (List.mem_of_mem_drop hid)) hlength
  · left
    refine ⟨column, ?_, ?_⟩
    · rw [columns_eq_parts]
      exact List.mem_append_right _ (List.mem_append_right _ hcolumn)
    · rw [hslot, Nat.add_sub_cancel' hi]
  · right
    rw [Axis.offset_of_le hi, ← add_assoc]
    rw [rightEdgeFrom_fixedPart, Columns.totalWidth_take_drop, Nat.add_sub_cancel' hi] at hlimit
    exact hlimit

/-! ### Order of the columns -/

theorem follow_placeColumns (limit : Rat) :
  ∀ (plans : List (ColumnPlan Rat)) (index : Nat) (x : Rat), (∀ p ∈ plans, 0 ≤ p.width) →
    Axis.Follow x ((placeColumns limit index x plans).map fun column => (column.left, column.right))
  | [], _, _, _ => trivial
  | p :: rest, index, x, h => by
    rw [placeColumns]
    split
    · exact trivial
    · have hwidth := h p List.mem_cons_self
      refine ⟨rfl, ?_, ?_⟩
      · change x ≤ x + p.width
        linarith
      · apply follow_placeColumns limit rest
        intro q hq
        apply h q (List.mem_cons_of_mem p hq)

theorem endOf_columns (x : Rat) (columns : List (PlacedColumn Rat)) :
  Axis.endOf x (columns.map fun column => (column.left, column.right)) = rightEdgeFrom x columns
  := by
  rw [Axis.endOf, rightEdgeFrom, List.getLast?_map]
  cases columns.getLast? <;> rfl

/-- Of two columns on the screen the one in front ends before the other begins. -/
theorem pairwise_columns (h : c.HasWidths) (config : Config Rat) (v : Viewport Rat)
    (rowCount : Nat) :
  (compute c config v rowCount).columns.Pairwise fun column column' => column.right ≤ column'.left
  := by
  obtain ⟨_, hcolumns⟩ := inOrder_columns h.hasLengths config v rowCount
  apply hcolumns.pairwise

/-- The synthetic columns do not reach beyond their width. -/
theorem right_le_leadingWidth (h : c.HasWidths) {rowCount : Nat}
    (hcolumn : column ∈ (compute c config v rowCount).columns)
    (hslot : column.slot.shownIndex? = none) :
  column.right ≤ leadingWidth c config
  := by
  have hmem : column ∈ syntheticPart c config v := by
    rw [columns_eq_parts] at hcolumn
    obtain hsynthetic | hshown := List.mem_append.mp hcolumn
    · exact hsynthetic
    · obtain hfixed | hscrolling := List.mem_append.mp hshown
      · obtain ⟨g, -, hg, -⟩ := left_of_mem_fixedPart hfixed
        rw [hg] at hslot
        cases hslot
      · obtain ⟨g, -, -, hg, -⟩ := left_of_mem_scrollingPart hscrolling
        rw [hg] at hslot
        cases hslot
  have hplans : ∀ p ∈ syntheticPlans c config, 0 ≤ p.width := by
    intro p hp
    apply h.hasLengths.zero_le_of_mem_columnPlans (v := v)
    rw [columnPlans, List.append_assoc]
    apply List.mem_append_left _ hp
  have hfollow := follow_placeColumns v.width (syntheticPlans c config) 0 Pixel.zero hplans
  have hend := hfollow.le_endOf (List.mem_map_of_mem hmem)
  rw [endOf_columns] at hend
  rw [← rightEdgeFrom_syntheticPart c config v]
  exact hend

end Offsets

/-! ### Rows -/

section Rows

variable {band : Band} {height : Rat} {row : PlacedRow Rat}

theorem top_of_mem_placeRows :
  ∀ {count first : Nat} {start : RowCursor Rat}, row ∈ placeRows band height count first start →
    ∃ j < count, row.row = first + j ∧ row.top = start.y + j * height ∧ row.height = height
      ∧ row.band = band
  | 0, _, _, h => by cases h
  | count + 1, first, start, h => by
    obtain rfl | hrest := List.mem_cons.mp h
    · refine ⟨0, Nat.succ_pos _, rfl, ?_, rfl, rfl⟩
      rw [Nat.cast_zero, zero_mul, add_zero]
    · obtain ⟨j, hj, hrow, htop, hheight, hband⟩ := top_of_mem_placeRows hrest
      refine ⟨j + 1, Nat.succ_lt_succ hj, ?_, ?_, hheight, hband⟩
      · rw [hrow, Nat.add_assoc, Nat.add_comm 1]
      · rw [htop, Nat.cast_add, Nat.cast_one]
        linarith

/-- Further rows begin further down. -/
theorem monotone_rowEdge (hheight : 0 ≤ height) :
  Monotone fun i : Nat => (i : Rat) * height
  := by
  intro i j hij
  exact mul_le_mul_of_nonneg_right (Nat.cast_le.mpr hij) hheight

/-- Rows that scroll are placed like others, up to one that begins at the limit or beyond it. -/
theorem exists_placeRowsTo_eq (limit : Rat) (band : Band) (height : Rat) :
  ∀ (count first : Nat) (start : RowCursor Rat),
    ∃ n ≤ count,
      placeRowsTo limit band height count first start = placeRows band height n first start
  | 0, _, _ => ⟨0, Nat.le_refl 0, rfl⟩
  | count + 1, first, start => by
    rw [placeRowsTo]
    split
    · exact ⟨0, Nat.zero_le _, rfl⟩
    · obtain ⟨n, hn, heq⟩ := exists_placeRowsTo_eq limit band height count (first + 1)
        ⟨start.index + 1, start.y + height⟩
      refine ⟨n + 1, Nat.succ_le_succ hn, ?_⟩
      rw [heq]
      rfl

theorem y_below_placeRows (band : Band) (height : Rat) :
  ∀ (count first : Nat) (start : RowCursor Rat),
    (start.below (placeRows band height count first start)).y = start.y + count * height
  | 0, _, start => by
    rw [Nat.cast_zero, zero_mul, add_zero]
    rfl
  | count + 1, first, start => by
    have hrest := y_below_placeRows band height count (first + 1)
      ⟨start.index + 1, start.y + height⟩
    rw [placeRows, RowCursor.below_cons]
    apply hrest.trans
    rw [Nat.cast_add, Nat.cast_one]
    linarith

/-- The rows above the data. -/
def topRows (config : Config Rat) : List (PlacedRow Rat) :=
  let start : RowCursor Rat := ⟨0, Pixel.zero⟩
  let header := placeRows .header config.headerRowHeight config.headerRows 0 start
  header ++ placeRows .filter config.rowHeight (if config.showFilterRow then 1 else 0) 0
    (start.below header)

/-- Where the rows above the data end. -/
def topEdge (config : Config Rat) : RowCursor Rat :=
  RowCursor.below ⟨0, Pixel.zero⟩ (topRows config)

theorem band_of_mem_topRows {config : Config Rat} (h : row ∈ topRows config) :
  row.band ≠ .data
  := by
  obtain hheader | hfilter := List.mem_append.mp h
  · obtain ⟨_, _, _, _, _, hband⟩ := top_of_mem_placeRows hheader
    rw [hband]
    decide
  · obtain ⟨_, _, _, _, _, hband⟩ := top_of_mem_placeRows hfilter
    rw [hband]
    decide

theorem standingRows_eq (config : Config Rat) (rowCount : Nat) :
  standingRows config rowCount
    = topRows config
        ++ placeRows .data config.rowHeight (min config.fixedRows rowCount) 0 (topEdge config)
  := by
  rw [standingRows, topEdge, topRows, RowCursor.below_append]

/-- The rows on the screen: those above the data, the fixed ones and some of those that scroll, one
below the other. -/
theorem exists_rows_eq (c : Columns Rat) (config : Config Rat) (v : Viewport Rat)
    (rowCount : Nat) :
  let fixed := min config.fixedRows rowCount
  ∃ n ≤ rowCount - (fixed + v.scrollTop),
    (compute c config v rowCount).rows
      = topRows config ++ (placeRows .data config.rowHeight fixed 0 (topEdge config)
          ++ placeRows .data config.rowHeight n (fixed + v.scrollTop)
              ((topEdge config).below
                (placeRows .data config.rowHeight fixed 0 (topEdge config))))
  := by
  intro fixed
  obtain ⟨n, hn, heq⟩ := exists_placeRowsTo_eq v.height .data config.rowHeight
    (rowCount - (fixed + v.scrollTop)) (fixed + v.scrollTop)
    (RowCursor.below ⟨0, Pixel.zero⟩ (standingRows config rowCount))
  refine ⟨n, hn, ?_⟩
  change computeRows config v rowCount = _
  rw [computeRows, heq, standingRows_eq, RowCursor.below_append, List.append_assoc]
  rfl

/-- A data row on the screen has the height of its kind, and it stands at its offset from the rows
above the data. -/
theorem top_of_mem_rows {c : Columns Rat} {config : Config Rat} {v : Viewport Rat} {rowCount : Nat}
    (h : row ∈ (compute c config v rowCount).rows) (hband : row.band = .data) :
  let fixed := min config.fixedRows rowCount
  Axis.Stands fixed v.scrollTop row.row
    ∧ row.top = (topEdge config).y
        + Axis.offset (fun i => i * config.rowHeight) fixed v.scrollTop row.row
    ∧ row.height = config.rowHeight
  := by
  intro fixed
  obtain ⟨n, -, hrows⟩ := exists_rows_eq c config v rowCount
  rw [hrows] at h
  obtain htop | hdata := List.mem_append.mp h
  · exact absurd hband (band_of_mem_topRows htop)
  · obtain hfixed | hscrolling := List.mem_append.mp hdata
    · obtain ⟨j, hj, hrow, htop, hheight, -⟩ := top_of_mem_placeRows hfixed
      rw [Nat.zero_add] at hrow
      rw [hrow, Axis.offset_of_lt hj]
      exact ⟨.inl hj, htop, hheight⟩
    · obtain ⟨j, -, hrow, htop, hheight, -⟩ := top_of_mem_placeRows hscrolling
      have hfirst : fixed + v.scrollTop ≤ row.row := by
        rw [hrow]
        apply Nat.le_add_right
      rw [y_below_placeRows] at htop
      rw [Axis.offset_of_le hfirst, htop, hrow]
      refine ⟨.inr (Nat.le_add_right _ _), ?_, hheight⟩
      rw [Nat.cast_add]
      linarith

/-- A row that scrolls is placed, or it would have begun at the limit or beyond it. -/
theorem row_placed_or_limit_le (limit : Rat) (band : Band) (hheight : 0 ≤ height) :
  ∀ (count first : Nat) (start : RowCursor Rat) {j : Nat}, j < count →
    (∃ row ∈ placeRowsTo limit band height count first start,
        row.row = first + j ∧ row.band = band)
      ∨ limit ≤ start.y + j * height
  | 0, _, _, _, hj => by cases hj
  | count + 1, first, start, j, hj => by
    rw [placeRowsTo]
    split
    case isTrue hstop =>
      have hbefore : 0 ≤ (j : Rat) * height := mul_nonneg (Nat.cast_nonneg j) hheight
      right
      linarith
    case isFalse =>
      cases j with
      | zero => exact .inl ⟨_, List.mem_cons_self, rfl, rfl⟩
      | succ j =>
        obtain ⟨row, hrow, hplace, hband⟩ | hlimit := row_placed_or_limit_le limit band hheight
          count (first + 1) ⟨start.index + 1, start.y + height⟩ (Nat.lt_of_succ_lt_succ hj)
        · left
          refine ⟨row, List.mem_cons_of_mem _ hrow, ?_, hband⟩
          rw [hplace, Nat.add_assoc, Nat.add_comm 1]
        · right
          rw [Nat.cast_add, Nat.cast_one]
          linarith

/-- The rows above the data are as high as the settings say. -/
theorem topEdge_y (config : Config Rat) :
  (topEdge config).y = config.headerHeight
  := by
  rw [topEdge, topRows, RowCursor.below_append, y_below_placeRows, y_below_placeRows,
    Config.headerHeight, Pixel.sum_eq, List.sum_replicate, nsmul_eq_mul]
  change 0 + _ + _ = _
  rw [zero_add]
  cases config.showFilterRow with
  | false => exact congrArg _ (zero_mul _)
  | true =>
    apply congrArg
    change ((1 : Nat) : Rat) * config.rowHeight = config.rowHeight
    rw [Nat.cast_one, one_mul]

/-- A row that is not scrolled out is on the screen, or it would have begun at the edge of the
viewport or beyond it. -/
theorem exists_row_or_height_le {config : Config Rat} (hheight : 0 ≤ config.rowHeight)
    (c : Columns Rat) (v : Viewport Rat) {rowCount i : Nat}
    (hi : min config.fixedRows rowCount + v.scrollTop ≤ i) (hcount : i < rowCount) :
  (∃ row ∈ (compute c config v rowCount).rows, row.band = .data ∧ row.row = i)
    ∨ v.height ≤ config.headerHeight
        + Axis.offset (fun i => i * config.rowHeight) (min config.fixedRows rowCount) v.scrollTop i
  := by
  have hj : i - (min config.fixedRows rowCount + v.scrollTop)
      < rowCount - (min config.fixedRows rowCount + v.scrollTop) :=
    Nat.sub_lt_sub_right hi hcount
  obtain ⟨row, hrow, hplace, hband⟩ | hlimit := row_placed_or_limit_le v.height .data hheight
    _ (min config.fixedRows rowCount + v.scrollTop)
    (RowCursor.below ⟨0, Pixel.zero⟩ (standingRows config rowCount)) hj
  · left
    refine ⟨row, List.mem_append_right _ hrow, hband, ?_⟩
    rw [hplace, Nat.add_sub_cancel' hi]
  · right
    rw [standingRows_eq, RowCursor.below_append, ← topEdge, y_below_placeRows, topEdge_y,
      Nat.cast_sub hi] at hlimit
    rw [Axis.offset_of_le hi]
    linarith

/-! ### Order of the rows -/

/-- Rows follow one another from the place where they begin. -/
def RowCursor.IsFollowedBy (start : RowCursor Rat) (rows : List (PlacedRow Rat)) : Prop :=
  Axis.Follow start.y (rows.map fun row => (row.top, row.bottom))

theorem endOf_rows (start : RowCursor Rat) (rows : List (PlacedRow Rat)) :
  Axis.endOf start.y (rows.map fun row => (row.top, row.bottom)) = (start.below rows).y
  := by
  rw [Axis.endOf, RowCursor.below, List.getLast?_map]
  cases rows.getLast? <;> rfl

theorem RowCursor.IsFollowedBy.append {start : RowCursor Rat} {rows rows' : List (PlacedRow Rat)}
    (h : start.IsFollowedBy rows) (h' : (start.below rows).IsFollowedBy rows') :
  start.IsFollowedBy (rows ++ rows')
  := by
  rw [IsFollowedBy, List.map_append]
  apply Axis.Follow.append h
  rw [endOf_rows]
  apply h'

theorem isFollowedBy_placeRows (band : Band) (hheight : 0 ≤ height) :
  ∀ (count first : Nat) (start : RowCursor Rat),
    start.IsFollowedBy (placeRows band height count first start)
  | 0, _, _ => trivial
  | count + 1, first, start => by
    refine ⟨rfl, ?_, ?_⟩
    · change start.y ≤ start.y + height
      linarith
    · apply isFollowedBy_placeRows band hheight count (first + 1)
        ⟨start.index + 1, start.y + height⟩

theorem isFollowedBy_topRows {config : Config Rat} (hheader : 0 ≤ config.headerRowHeight)
    (hrow : 0 ≤ config.rowHeight) :
  RowCursor.IsFollowedBy ⟨0, Pixel.zero⟩ (topRows config)
  := (isFollowedBy_placeRows .header hheader _ _ _).append
    (isFollowedBy_placeRows .filter hrow _ _ _)

/-- The rows above the data do not reach beyond their edge. -/
theorem bottom_le_topEdge {c : Columns Rat} {config : Config Rat} {v : Viewport Rat}
    {rowCount : Nat} (hheader : 0 ≤ config.headerRowHeight) (hheight : 0 ≤ config.rowHeight)
    (hrow : row ∈ (compute c config v rowCount).rows) (hband : row.band ≠ .data) :
  row.bottom ≤ (topEdge config).y
  := by
  have hmem : row ∈ topRows config := by
    obtain ⟨n, -, hrows⟩ := exists_rows_eq c config v rowCount
    rw [hrows] at hrow
    obtain htop | hdata := List.mem_append.mp hrow
    · exact htop
    · obtain hfixed | hscrolling := List.mem_append.mp hdata
      · obtain ⟨_, _, _, _, _, hdata⟩ := top_of_mem_placeRows hfixed
        exact absurd hdata hband
      · obtain ⟨_, _, _, _, _, hdata⟩ := top_of_mem_placeRows hscrolling
        exact absurd hdata hband
  have hend := Axis.Follow.le_endOf (isFollowedBy_topRows hheader hheight)
    (List.mem_map_of_mem hmem)
  rw [endOf_rows] at hend
  exact hend

/-- Of two rows on the screen the one above ends before the other begins. -/
theorem pairwise_rows {config : Config Rat} (hheader : 0 ≤ config.headerRowHeight)
    (hrow : 0 ≤ config.rowHeight) (c : Columns Rat) (v : Viewport Rat) (rowCount : Nat) :
  (compute c config v rowCount).rows.Pairwise fun row row' => row.bottom ≤ row'.top
  := by
  obtain ⟨_, hrows⟩ := inOrder_rows hheader hrow c v rowCount
  apply hrows.pairwise

end Rows

end Layout

end DataGrid
