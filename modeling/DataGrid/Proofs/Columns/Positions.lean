import Mathlib.Data.List.Perm.Subperm
import DataGrid.Proofs.Columns.Order

/-!
# Where a change puts each item

After a move of a run, every item stands at one new index: the run from the place where it lands
on, and everything else around it (`movedIndex`).  Each index is taken by one item, and
`movedPositions?` lists the new indexes.  After columns have been placed in the shown list, a
column that was kept stands behind the kept ones before it (`Columns.keptIndex`), and what was
placed stands together (`Columns.placedIndex`).
-/

namespace DataGrid

/-- The new index of item `i` when the run of `count` items from `start` has been put at
`place`. -/
def movedIndex (start count place i : Nat) : Nat :=
  if i < start then
    if i < place then i else i + count
  else if i < start + count then place + (i - start)
  else if i - count < place then i - count
  else i

section Run

variable {β : Type} {xs ys : List β} {start count place target : Nat}

theorem movedIndex_lt {n i : Nat} (hrun : start + count ≤ n) (hplace : place + count ≤ n)
    (hi : i < n) :
  movedIndex start count place i < n
  := by
  rw [movedIndex]
  split_ifs
  all_goals omega

theorem movedIndex_injective (start count place : Nat) :
  Function.Injective (movedIndex start count place)
  := by
  intro i j h
  rw [movedIndex, movedIndex] at h
  split_ifs at h
  all_goals omega

/-- What stands around a run, by its index there. -/
private theorem getElem?_others (xs : List β) (count : Nat) {i : Nat} (h : start ≤ xs.length) :
  (xs.take start ++ xs.drop (start + count))[i]? = if i < start then xs[i]? else xs[i + count]?
  := by
  have length : (xs.take start).length = start := List.length_take_of_le h
  rw [List.getElem?_append, length]
  split
  case isTrue hlt => rw [List.getElem?_take_of_lt hlt]
  case isFalse hle =>
    rw [List.getElem?_drop]
    congr 1
    omega

/-- An item stands at its new index. -/
theorem RunMoved.getElem?_movedIndex (h : RunMoved xs ys start count place)
    (hrun : start + count ≤ xs.length) (hplace : place + count ≤ xs.length) (i : Nat) :
  ys[movedIndex start count place i]? = xs[i]?
  := by
  have hlength : ys.length = xs.length := h.perm.length_eq
  have hothers : ∀ o : Nat, (if o < place then ys[o]? else ys[o + count]?)
      = if o < start then xs[o]? else xs[o + count]? := by
    intro o
    rw [← getElem?_others ys count (by omega), ← getElem?_others xs count (by omega), h.others_eq]
  have hmoved : ∀ k : Nat, k < count → ys[place + k]? = xs[start + k]? := by
    intro k hk
    rw [← List.getElem?_drop, ← List.getElem?_take_of_lt hk, h.run_eq,
      List.getElem?_take_of_lt hk, List.getElem?_drop]
  rw [movedIndex]
  split
  case isTrue hbefore =>
    have hi := hothers i
    rw [if_pos hbefore] at hi
    rw [← hi, apply_ite (ys[·]?)]
  case isFalse hstart =>
    split
    case isTrue hend =>
      rw [hmoved (i - start) (by omega)]
      congr 1
      omega
    case isFalse hend =>
      have hi := hothers (i - count)
      rw [if_neg (by omega : ¬ i - count < start), Nat.sub_add_cancel (by omega)] at hi
      rw [← hi, apply_ite (ys[·]?)]

theorem getElem?_of_moveRun? (h : moveRun? xs start count target = some ys) (i : Nat) :
  ys[movedIndex start count (landing start count target) i]? = xs[i]?
  := by
  obtain ⟨-, hrun, htarget⟩ := bounds_of_moveRun? h
  apply (runMoved_of_moveRun? h).getElem?_movedIndex hrun (landing_le hrun htarget)

/-- The new indexes are the old ones in another order. -/
theorem perm_map_movedIndex {n : Nat} (hrun : start + count ≤ n) (hplace : place + count ≤ n) :
  ((List.range n).map (movedIndex start count place)).Perm (List.range n)
  := by
  have hnodup : ((List.range n).map (movedIndex start count place)).Nodup :=
    List.nodup_range.map (movedIndex_injective start count place)
  have hsubset : (List.range n).map (movedIndex start count place) ⊆ List.range n := by
    intro j hj
    obtain ⟨i, hi, rfl⟩ := List.mem_map.mp hj
    apply List.mem_range.mpr (movedIndex_lt hrun hplace (List.mem_range.mp hi))
  apply (List.subperm_of_subset hnodup hsubset).perm_of_length_le
  apply Nat.le_of_eq (List.length_map _).symm

theorem exists_moveRun? (hcount : 0 < count) (hrun : start + count ≤ xs.length)
    (htarget : target ≤ xs.length) :
  ∃ ys, moveRun? xs start count target = some ys
  := by
  apply Exists.intro
  rw [moveRun?, if_pos ⟨hcount, hrun, htarget⟩]

theorem movedPositions?_of_moveRun? (h : moveRun? xs start count target = some ys) :
  movedPositions? xs.length start count target
    = some ((List.range xs.length).map (movedIndex start count (landing start count target)))
  := by
  obtain ⟨hcount, hrun, htarget⟩ := bounds_of_moveRun? h
  obtain ⟨order, horder⟩ :
      ∃ order, moveRun? (List.range xs.length) start count target = some order := by
    apply exists_moveRun? hcount
    · rw [List.length_range]
      apply hrun
    · rw [List.length_range]
      apply htarget
  have hnodup : order.Nodup :=
    (runMoved_of_moveRun? horder).perm.nodup_iff.mpr List.nodup_range
  rw [movedPositions?, horder, Option.map_some]
  congr 1
  apply List.map_congr_left
  intro i hi
  have hplaced := getElem?_of_moveRun? horder i
  rw [List.getElem?_range (List.mem_range.mp hi)] at hplaced
  obtain ⟨hlt, hitem⟩ := List.getElem?_eq_some_iff.mp hplaced
  conv_lhs => rw [← hitem]
  apply hnodup.idxOf_getElem

end Run

namespace Columns

/-! ### Placed columns -/

/-- How many of `length` shown columns stand before the place. -/
def Placement.point (length : Nat) : Placement → Nat
  | .before i => i
  | .atEnd | .removeOnly => length

/-- What is shown at the place. -/
def Placement.placed (picked : List ColumnId) : Placement → List ColumnId
  | .before _ | .atEnd => picked
  | .removeOnly => []

/-- How many of the first `i` shown columns are not picked. -/
def keptBefore (shown picked : List ColumnId) (i : Nat) : Nat :=
  ((shown.take i).filter fun id => !picked.contains id).length

/-- The new index of column `i` when others have been picked and placed. -/
def keptIndex (shown picked : List ColumnId) (placement : Placement) (i : Nat) : Nat :=
  keptBefore shown picked i
    + if i < placement.point shown.length then 0 else (placement.placed picked).length

/-- The index of item `k` of what has been placed. -/
def placedIndex (shown picked : List ColumnId) (placement : Placement) (k : Nat) : Nat :=
  keptBefore shown picked (placement.point shown.length) + k

section Arrange

variable {shown picked : List ColumnId} {placement : Placement} {id : ColumnId} {i j k : Nat}

/-- What is placed stands between the columns that are kept. -/
theorem arrange_eq (shown picked : List ColumnId) (placement : Placement) :
  arrange shown picked placement false
    = (shown.take (placement.point shown.length)).filter (fun id => !picked.contains id)
      ++ placement.placed picked
      ++ (shown.drop (placement.point shown.length)).filter (fun id => !picked.contains id)
  := by
  cases placement with
  | before i => apply arrange_before
  | atEnd => simp [arrange_atEnd, kept, Placement.point, Placement.placed]
  | removeOnly => simp [arrange_removeOnly, kept, Placement.point, Placement.placed]

/-- What a filter keeps stands behind what it keeps before that. -/
theorem getElem?_filter_length {β : Type} {p : β → Bool} {items : List β} {a : β}
    (h : items[i]? = some a) (ha : p a) :
  (items.filter p)[((items.take i).filter p).length]? = some a
  := by
  obtain ⟨hi, rfl⟩ := List.getElem?_eq_some_iff.mp h
  have hsplit : items.filter p
      = (items.take i).filter p ++ items[i] :: (items.drop (i + 1)).filter p := by
    rw [← List.filter_cons_of_pos ha, ← List.drop_eq_getElem_cons hi, ← List.filter_append,
      List.take_append_drop]
  rw [hsplit, List.getElem?_append_right (Nat.le_refl _), Nat.sub_self]
  rfl

theorem keptBefore_add (shown picked : List ColumnId) (i j : Nat) :
  keptBefore shown picked (i + j)
    = keptBefore shown picked i + keptBefore (shown.drop i) picked j
  := by
  rw [keptBefore, List.take_add, List.filter_append, List.length_append]
  rfl

theorem getElem?_arrange_keptIndex (h : shown[i]? = some id) (hid : id ∉ picked) :
  (arrange shown picked placement false)[keptIndex shown picked placement i]? = some id
  := by
  have hkeep : (!picked.contains id) = true := by
    rw [Bool.not_eq_true', List.contains_eq_mem, decide_eq_false hid]
  rw [arrange_eq, keptIndex]
  generalize placement.point shown.length = point
  split
  case isTrue hlt =>
    have hbefore := getElem?_filter_length (p := fun id => !picked.contains id)
      (List.getElem?_take_of_lt hlt ▸ h) hkeep
    rw [List.take_take, Nat.min_eq_left (Nat.le_of_lt hlt)] at hbefore
    obtain ⟨hindex, -⟩ := List.getElem?_eq_some_iff.mp hbefore
    rw [List.append_assoc, Nat.add_zero, keptBefore, List.getElem?_append_left hindex, hbefore]
  case isFalse hle =>
    obtain ⟨j, rfl⟩ := Nat.exists_eq_add_of_le (Nat.le_of_not_lt hle)
    rw [← List.getElem?_drop] at h
    have hbehind := getElem?_filter_length (p := fun id => !picked.contains id) h hkeep
    have hlength : keptBefore shown picked (point + j) + (placement.placed picked).length
        = ((shown.take point).filter (fun id => !picked.contains id)
            ++ placement.placed picked).length + keptBefore (shown.drop point) picked j := by
      rw [keptBefore_add, List.length_append, keptBefore]
      omega
    rw [hlength, List.getElem?_append_right (Nat.le_add_right _ _), Nat.add_sub_cancel_left]
    apply hbehind

theorem getElem?_arrange_placedIndex (h : (placement.placed picked)[k]? = some id) :
  (arrange shown picked placement false)[placedIndex shown picked placement k]? = some id
  := by
  obtain ⟨hk, -⟩ := List.getElem?_eq_some_iff.mp h
  rw [arrange_eq, placedIndex, keptBefore, List.append_assoc,
    List.getElem?_append_right (Nat.le_add_right _ _), Nat.add_sub_cancel_left,
    List.getElem?_append_left hk, h]

theorem mem_arrange_iff :
  id ∈ arrange shown picked placement false
    ↔ (id ∈ shown ∧ id ∉ picked) ∨ id ∈ placement.placed picked
  := by
  have hshown : id ∈ shown ↔ id ∈ shown.take (placement.point shown.length)
      ∨ id ∈ shown.drop (placement.point shown.length) := by
    rw [← List.mem_append, List.take_append_drop]
  simp only [arrange_eq, List.mem_append, List.mem_filter, hshown, Bool.not_eq_true',
    List.contains_eq_mem, decide_eq_false_iff_not]
  tauto

end Arrange

end Columns

end DataGrid
