import Mathlib.Data.List.Nodup
import DataGrid.Proofs.Columns.Placing

/-!
# What changes of the order keep

Moving a run and exchanging two items permute a list.  After a move the run stands together in
its old order, and so does everything else (`RunMoved`).  Placing columns in the shown list shows
no column that was neither shown nor asked for, and repeats a column only if the request does.
-/

namespace DataGrid

/-! ### Moved runs -/

section Run

variable {β : Type} {xs ys : List β} {start count target place : Nat}

/-- The items of `xs` from `start` on, `count` of them, stand at `place` in `ys` in their old
order, and all other items stand around them in theirs. -/
structure RunMoved (xs ys : List β) (start count place : Nat) : Prop where
  run_eq : (ys.drop place).take count = (xs.drop start).take count
  others_eq : ys.take place ++ ys.drop (place + count) = xs.take start ++ xs.drop (start + count)

/-- What stands before a run and behind it begins as the whole list does. -/
private theorem take_others (xs : List β) (count : Nat) {n : Nat} (h : n ≤ start) :
  (xs.take start ++ xs.drop (start + count)).take n = xs.take n
  := by
  rw [List.take_append, List.take_take, Nat.min_eq_left h]
  obtain hlt | hle := Nat.lt_or_ge xs.length start
  · rw [List.drop_eq_nil_of_le (by omega), List.take_nil, List.append_nil]
  · rw [List.length_take_of_le hle, Nat.sub_eq_zero_of_le h, List.take_zero, List.append_nil]

namespace RunMoved

theorem refl (xs : List β) (start count : Nat) :
  RunMoved xs xs start count start
  := ⟨rfl, rfl⟩

/-- A list is what stands before a run, the run, and what stands behind it. -/
private theorem eq_before_run_behind (xs : List β) (start count : Nat) :
  xs = xs.take start ++ ((xs.drop start).take count ++ xs.drop (start + count))
  := by
  rw [← List.drop_drop, List.take_append_drop, List.take_append_drop]

/-- A list is its run followed by its other items, up to order. -/
private theorem perm_run_others (xs : List β) (start count : Nat) :
  xs.Perm ((xs.drop start).take count ++ (xs.take start ++ xs.drop (start + count)))
  := by
  conv_lhs => rw [eq_before_run_behind xs start count]
  rw [← List.append_assoc, ← List.append_assoc]
  apply List.Perm.append_right
  apply List.perm_append_comm

theorem perm (h : RunMoved xs ys start count place) :
  ys.Perm xs
  := by
  have hys := perm_run_others ys place count
  rw [h.run_eq, h.others_eq] at hys
  apply hys.trans (perm_run_others xs start count).symm

/-- What stands before both places of the run stays as it is. -/
theorem take_eq (h : RunMoved xs ys start count place) {n : Nat} (hs : n ≤ start)
    (hp : n ≤ place) :
  ys.take n = xs.take n
  := by
  rw [← take_others ys count hp, h.others_eq, take_others xs count hs]

/-- A run that stands where it stood has not been moved. -/
theorem eq_of_same_place (h : RunMoved xs ys start count start) :
  ys = xs
  := by
  have length : (ys.take start).length = (xs.take start).length := by
    rw [List.length_take, List.length_take, h.perm.length_eq]
  obtain ⟨hbefore, hbehind⟩ := List.append_inj h.others_eq length
  rw [eq_before_run_behind ys start count, h.run_eq, hbefore, hbehind]
  apply (eq_before_run_behind xs start count).symm

end RunMoved

theorem landing_le (h : start + count ≤ xs.length) (ht : target ≤ xs.length) :
  landing start count target + count ≤ xs.length
  := by
  rw [landing]
  split
  · omega
  · split
    · omega
    · omega

theorem take_insertAt {items left : List β} (h : place ≤ left.length) :
  (insertAt place items left).take place = left.take place
  := by
  have length : (left.take place).length = place := List.length_take_of_le h
  rw [insertAt, List.append_assoc, List.take_left' length]

theorem drop_insertAt {items left : List β} (h : place ≤ left.length) :
  (insertAt place items left).drop place = items ++ left.drop place
  := by
  have length : (left.take place).length = place := List.length_take_of_le h
  rw [insertAt, List.append_assoc, List.drop_left' length]

theorem drop_insertAt_length {items left : List β} (h : place ≤ left.length)
    (hcount : items.length = count) :
  (insertAt place items left).drop (place + count) = left.drop place
  := by
  rw [← List.drop_drop, drop_insertAt h, List.drop_left' hcount]

theorem bounds_of_moveRun? (h : moveRun? xs start count target = some ys) :
  0 < count ∧ start + count ≤ xs.length ∧ target ≤ xs.length
  := by
  rw [moveRun?] at h
  split at h
  case isTrue fits => apply fits
  case isFalse => cases h

/-- Before a target that is not inside the run, the run lands after what stands there without
it. -/
theorem landing_eq_of_outside (h : target ≤ start ∨ start + count ≤ target) :
  landing start count target = if start < target then target - count else target
  := by
  rw [landing]
  split
  · split
    · rfl
    · omega
  · split
    · omega
    · rfl

/-- A run that has been moved stands where it lands. -/
theorem runMoved_of_moveRun? (h : moveRun? xs start count target = some ys) :
  RunMoved xs ys start count (landing start count target)
  := by
  rw [moveRun?] at h
  split at h
  case isFalse => cases h
  case isTrue fits =>
    obtain ⟨-, hrun, htarget⟩ := fits
    obtain rfl := Option.some.inj h
    have hplace := landing_le hrun htarget
    generalize landing start count target = place at hplace
    have run_length : ((xs.drop start).take count).length = count := by
      rw [List.length_take, List.length_drop]
      omega
    have left_length : (xs.take start ++ xs.drop (start + count)).length = xs.length - count := by
      rw [List.length_append, List.length_take, List.length_drop]
      omega
    have hleft : place ≤ (xs.take start ++ xs.drop (start + count)).length := by
      omega
    constructor
    case run_eq => rw [drop_insertAt hleft, List.take_left' run_length]
    case others_eq =>
      rw [take_insertAt hleft, drop_insertAt_length hleft run_length, List.take_append_drop]

end Run

namespace Columns

theorem perm_swapItems {β : Type} (xs : List β) (a b : Nat) :
  (swapItems xs a b).Perm xs
  := by
  rw [swapItems]
  split
  case h_1 x y hx hy =>
    obtain ⟨ha, rfl⟩ := List.getElem?_eq_some_iff.mp hx
    obtain ⟨hb, rfl⟩ := List.getElem?_eq_some_iff.mp hy
    apply List.set_set_perm
  case h_2 => apply List.Perm.refl

/-! ### Placed columns -/

section Arrange

variable {shown picked : List ColumnId} {placement : Placement}

/-- Taking columns away leaves the others in order. -/
theorem sublist_arrange_removeOnly (shown picked : List ColumnId) (duplicates : Bool) :
  (arrange shown picked .removeOnly duplicates).Sublist shown
  := by
  rw [arrange_removeOnly]
  cases duplicates with
  | true => apply List.Sublist.refl
  | false => apply List.filter_sublist

theorem not_mem_arrange_removeOnly {id : ColumnId} (h : id ∈ picked) :
  id ∉ arrange shown picked .removeOnly false
  := by
  intro hmem
  rw [arrange_removeOnly] at hmem
  have hkept := (List.mem_filter.mp hmem).2
  rw [List.contains_iff_mem.mpr h] at hkept
  cases hkept

/-- Wherever columns are placed, the list holds what taking them away leaves, and them. -/
theorem perm_arrange (shown picked : List ColumnId) (duplicates : Bool)
    (h : placement ≠ .removeOnly) :
  (arrange shown picked placement duplicates).Perm
    (arrange shown picked .removeOnly duplicates ++ picked)
  := by
  rw [arrange_removeOnly]
  cases placement with
  | removeOnly => cases h rfl
  | atEnd => rw [arrange_atEnd]
  | before i =>
    have split : kept picked duplicates shown
        = kept picked duplicates (shown.take i) ++ kept picked duplicates (shown.drop i) := by
      rw [← kept_append, List.take_append_drop]
    rw [arrange_before, split, List.append_assoc, List.append_assoc]
    apply List.Perm.append_left
    apply List.perm_append_comm

theorem mem_or_mem_of_mem_arrange {duplicates : Bool} {id : ColumnId}
    (h : id ∈ arrange shown picked placement duplicates) :
  id ∈ shown ∨ id ∈ picked
  := by
  have hremove := sublist_arrange_removeOnly shown picked duplicates
  by_cases hplacement : placement = .removeOnly
  · rw [hplacement] at h
    apply Or.inl (hremove.mem h)
  · have hmem := (perm_arrange shown picked duplicates hplacement).mem_iff.mp h
    obtain hkept | hpicked := List.mem_append.mp hmem
    · apply Or.inl (hremove.mem hkept)
    · apply Or.inr hpicked

/-- Unless repetitions are allowed, the shown list repeats exactly what the request does. -/
theorem nodup_arrange_iff (h : shown.Nodup) :
  (arrange shown picked placement false).Nodup ↔ placement = .removeOnly ∨ picked.Nodup
  := by
  have hremove := h.sublist (sublist_arrange_removeOnly shown picked false)
  by_cases hplacement : placement = .removeOnly
  · rw [hplacement]
    simp only [hremove, true_or]
  · have apart :
        ∀ a ∈ arrange shown picked .removeOnly false, ∀ b ∈ picked, a ≠ b := by
      rintro a ha _ hb rfl
      apply not_mem_arrange_removeOnly hb ha
    rw [(perm_arrange shown picked false hplacement).nodup_iff, List.nodup_append]
    constructor
    · rintro ⟨-, hpicked, -⟩
      apply Or.inr hpicked
    · rintro (hnone | hpicked)
      · cases hplacement hnone
      · apply And.intro hremove ⟨hpicked, apart⟩

end Arrange

end Columns

end DataGrid
