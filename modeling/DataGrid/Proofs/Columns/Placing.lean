import Mathlib.Data.List.InsertIdx
import DataGrid.Columns

/-!
# Where placed columns go

What a request picks is taken out of the shown list copy by copy, and the opening moves along with
the item it stands before.  So the parts before and behind the opening lose what is picked and
nothing else (`Opening.IsPart.foldl_without`), and what is picked is placed where the opening was in
the whole list (`Columns.arrange_before`).
-/

namespace DataGrid

/-! ### Lists with an item taken out -/

section EraseIdx

variable {β : Type} {xs : List β} {i n : Nat}

/-- Whether an item that a filter drops is taken out first makes no difference to the filter. -/
theorem filter_eraseIdx {p : β → Bool} {a : β} (ha : xs[i]? = some a) (hp : p a = false) :
  (xs.eraseIdx i).filter p = xs.filter p
  := by
  obtain ⟨hi, rfl⟩ := List.getElem?_eq_some_iff.mp ha
  have hdrop : xs.drop i = xs[i] :: xs.drop (i + 1) := List.drop_eq_getElem_cons hi
  conv => rhs; rw [← List.take_append_drop i xs, hdrop]
  rw [List.eraseIdx_eq_take_drop_succ, List.filter_append, List.filter_append,
    List.filter_cons_of_neg (Bool.eq_false_iff.mp hp)]

theorem take_eraseIdx_of_lt (h : i < n) :
  (xs.eraseIdx i).take (n - 1) = (xs.take n).eraseIdx i
  := by
  apply List.ext_getElem?
  intro j
  grind

theorem drop_eraseIdx_of_lt (h : i < n) :
  (xs.eraseIdx i).drop (n - 1) = xs.drop n
  := by
  apply List.ext_getElem?
  intro j
  grind

theorem drop_eraseIdx_of_le (h : n ≤ i) :
  (xs.eraseIdx i).drop n = (xs.drop n).eraseIdx (i - n)
  := by
  apply List.ext_getElem?
  intro j
  grind

end EraseIdx

namespace Columns

namespace Opening

/-- What stands before the opening. -/
def before (o : Opening) : List ColumnId := o.shown.take o.index

/-- What stands behind the opening. -/
def behind (o : Opening) : List ColumnId := o.shown.drop o.index

/-- What is put into an opening stands between what is before and behind it. -/
theorem fill_eq (o : Opening) (picked : List ColumnId) :
  o.fill picked = o.before ++ picked ++ o.behind
  := by
  rw [fill, insertAt, before, behind]
  obtain hle | hlt := Nat.le_total o.index o.shown.length
  · rw [Nat.min_eq_left hle]
  · rw [Nat.min_eq_right hlt, List.take_length, List.drop_length, List.take_of_length_le hlt,
      List.drop_of_length_le hlt]

/-- A part of the list around an opening, from which an item is taken if it stands there. -/
structure IsPart (part : Opening → List ColumnId) : Prop where
  subset : ∀ o, part o ⊆ o.shown
  filter_eraseAt : ∀ (o : Opening) (p : ColumnId → Bool) (i : Nat) (id : ColumnId),
    o.shown[i]? = some id → p id = false → (part (o.eraseAt i)).filter p = (part o).filter p

theorem isPart_shown :
  IsPart Opening.shown
  := by
  constructor
  case subset => exact fun o => List.Subset.refl o.shown
  case filter_eraseAt =>
    intro o p i id hi hp
    apply filter_eraseIdx hi hp

theorem isPart_before :
  IsPart before
  := by
  constructor
  case subset => exact fun o => List.take_subset o.index o.shown
  case filter_eraseAt =>
    intro o p i id hi hp
    rw [before, eraseAt]
    split
    case isTrue hlt =>
      rw [take_eraseIdx_of_lt hlt]
      apply filter_eraseIdx _ hp
      rw [List.getElem?_take_of_lt hlt, hi]
    case isFalse hle =>
      rw [List.take_eraseIdx_eq_take_of_le _ _ _ (Nat.le_of_not_lt hle), before]

theorem isPart_behind :
  IsPart behind
  := by
  constructor
  case subset => exact fun o => List.drop_subset o.index o.shown
  case filter_eraseAt =>
    intro o p i id hi hp
    rw [behind, eraseAt]
    split
    case isTrue hlt => rw [drop_eraseIdx_of_lt hlt, behind]
    case isFalse hle =>
      rw [drop_eraseIdx_of_le (Nat.le_of_not_lt hle)]
      apply filter_eraseIdx _ hp
      rw [List.getElem?_drop, Nat.add_sub_cancel' (Nat.le_of_not_lt hle), hi]

/-- Taking every copy of a column out of the list takes it out of each part. -/
theorem IsPart.without {part : Opening → List ColumnId} (h : IsPart part) (o : Opening)
    (id : ColumnId) :
  part (o.without id) = (part o).filter fun other => other != id
  := by
  fun_induction Opening.without o id with
  | case1 o hnone =>
    have hid : id ∉ o.shown := List.idxOf?_eq_none_iff.mp hnone
    symm
    apply List.filter_eq_self.mpr
    intro other hother
    apply bne_iff_ne.mpr
    rintro rfl
    apply hid (h.subset o hother)
  | case2 o i hi ih =>
    obtain ⟨hlt, hget, -⟩ := List.idxOf?_eq_some_iff.mp hi
    rw [ih]
    apply h.filter_eraseAt o _ i id
    · rw [List.getElem?_eq_getElem hlt, hget]
    · apply bne_self_eq_false

/-- Taking columns out one after the other takes them all out of each part. -/
theorem IsPart.foldl_without {part : Opening → List ColumnId} (h : IsPart part)
    (picked : List ColumnId) (o : Opening) :
  part (picked.foldl Opening.without o) = (part o).filter fun id => !picked.contains id
  := by
  induction picked generalizing o with
  | nil => exact (List.filter_eq_self.mpr fun _ _ => rfl).symm
  | cons id rest ih =>
    rw [List.foldl_cons, ih, h.without, List.filter_filter]
    apply List.filter_congr
    intro other _
    rw [List.contains_cons, Bool.not_or, Bool.and_comm]
    rfl

end Opening

/-! ### Placed columns -/

variable {shown picked : List ColumnId}

/-- What a request leaves of a part of the shown list. -/
def kept (picked : List ColumnId) (duplicates : Bool) (part : List ColumnId) : List ColumnId :=
  if duplicates then part else part.filter fun id => !picked.contains id

theorem kept_append (picked : List ColumnId) (duplicates : Bool) (part part' : List ColumnId) :
  kept picked duplicates (part ++ part') = kept picked duplicates part ++ kept picked duplicates part'
  := by
  cases duplicates with
  | true => rfl
  | false => apply List.filter_append

/-- Each part of the list around the opening is kept as far as the request leaves it. -/
theorem Opening.IsPart.kept_eq {part : Opening → List ColumnId} (h : IsPart part) (o : Opening)
    (picked : List ColumnId) (duplicates : Bool) :
  part (if duplicates then o else picked.foldl Opening.without o)
    = kept picked duplicates (part o)
  := by
  cases duplicates with
  | true => rfl
  | false => apply h.foldl_without

/-- What is placed before an index stands between what is kept of the columns on both sides. -/
theorem arrange_before (shown picked : List ColumnId) (i : Nat) (duplicates : Bool) :
  arrange shown picked (.before i) duplicates
    = kept picked duplicates (shown.take i) ++ picked ++ kept picked duplicates (shown.drop i)
  := by
  rw [arrange]
  rw [Opening.fill_eq, Opening.isPart_before.kept_eq, Opening.isPart_behind.kept_eq]
  rfl

theorem arrange_atEnd (shown picked : List ColumnId) (duplicates : Bool) :
  arrange shown picked .atEnd duplicates = kept picked duplicates shown ++ picked
  := by
  rw [arrange]
  rw [Opening.isPart_shown.kept_eq]
  rfl

theorem arrange_removeOnly (shown picked : List ColumnId) (duplicates : Bool) :
  arrange shown picked .removeOnly duplicates = kept picked duplicates shown
  := Opening.isPart_shown.kept_eq _ _ _

end Columns

end DataGrid
