import Mathlib
import DataGrid.Proofs.Columns.Positions
import DataGrid.Proofs.Columns.Repeats
import DataGrid.Proofs.Model.Coherence
import DataGrid.Schema
import DataGrid.Table

/-!
# Shown and hidden columns and the selection

A selection names columns by their index among the shown ones, and showing or hiding columns leaves
it as it is while the columns behind the place get other indexes.  So the same columns stay selected
(`Selection.FollowsColumns`) exactly if the selection agrees with itself at the old and the new
index of each column.
-/

namespace DataGrid

/-- By identity, the columns that stay shown are selected in `s'` as they are in `s`, and a column
that was not shown is not selected. -/
structure Selection.FollowsColumns (s s' : Selection) (shown shown' : List ColumnId) : Prop where
  kept : ∀ (id : ColumnId) (i j : Nat), shown[i]? = some id → shown'[j]? = some id →
    s'.isColumnSelected j = s.isColumnSelected i
  fresh : ∀ (id : ColumnId) (j : Nat), id ∉ shown → shown'[j]? = some id →
    s'.isColumnSelected j = false

namespace Model

variable {α σ : Type} [Pixel α] [DataSource σ] {m : Model α σ}

/-- Showing columns leaves the selection as it is. -/
theorem selection_showColumns (m : Model α σ) (source : Columns.Source) (indexes : List Nat)
    (placement : Columns.Placement) (duplicates : Bool) :
  (m.showColumns source indexes placement duplicates).selection = m.selection
  := selection_clampFixedColumns _

theorem shown_showColumns (m : Model α σ) (source : Columns.Source) (indexes : List Nat)
    (placement : Columns.Placement) (duplicates : Bool) :
  (m.showColumns source indexes placement duplicates).columns.shown
    = Columns.arrange m.columns.shown (m.columns.pick source indexes) placement duplicates
  := by
  change (clampFixedColumns _).columns.shown = _
  rw [columns_clampFixedColumns]
  apply Columns.shown_setShown

/-- Whether a column is selected, if it is shown at all. -/
def isSelected (m : Model α σ) (id : ColumnId) : Bool :=
  (m.columns.shownIndex? id).any m.selection.isColumnSelected

omit [Pixel α] [DataSource σ] in
theorem isSelected_of_getElem? (hshown : m.columns.shown.Nodup) {id : ColumnId} {i : Nat}
    (h : m.columns.shown[i]? = some id) :
  m.isSelected id = m.selection.isColumnSelected i
  := by
  have hindex : m.columns.shownIndex? id = some i := by
    obtain ⟨hlt, rfl⟩ := List.getElem?_eq_some_iff.mp h
    apply List.idxOf?_eq_some_iff.mpr ⟨hlt, rfl, ?_⟩
    intro j hj heq
    apply Nat.ne_of_lt hj ((hshown.getElem_inj_iff).mp heq)
  rw [isSelected, hindex, Option.any_some]

omit [Pixel α] [DataSource σ] in
theorem isSelected_of_not_mem {id : ColumnId} (h : id ∉ m.columns.shown) :
  m.isSelected id = false
  := by
  have hindex : m.columns.shownIndex? id = none := List.idxOf?_eq_none_iff.mpr h
  rw [isSelected, hindex, Option.any_none]

/-- The selection agrees with itself at the old and the new index of each column, when some are
picked and placed. -/
structure Agrees (m : Model α σ) (picked : List ColumnId) (placement : Columns.Placement) :
    Prop where
  kept : ∀ (i : Nat) (id : ColumnId), m.columns.shown[i]? = some id → id ∉ picked →
    m.selection.isColumnSelected (Columns.keptIndex m.columns.shown picked placement i)
      = m.selection.isColumnSelected i
  placed : ∀ (k : Nat) (id : ColumnId), (placement.placed picked)[k]? = some id →
    m.selection.isColumnSelected (Columns.placedIndex m.columns.shown picked placement k)
      = m.isSelected id

/-- Showing columns once each keeps the selection with its columns exactly if the selection agrees
with itself at their old and new indexes. -/
theorem followsColumns_showColumns_iff (hshown : m.columns.shown.Nodup) {source : Columns.Source}
    {indexes : List Nat} (hpicked : (m.columns.pick source indexes).Nodup)
    (placement : Columns.Placement) :
  m.selection.FollowsColumns (m.showColumns source indexes placement false).selection
      m.columns.shown (m.showColumns source indexes placement false).columns.shown
    ↔ m.Agrees (m.columns.pick source indexes) placement
  := by
  rw [selection_showColumns, shown_showColumns]
  generalize m.columns.pick source indexes = picked at hpicked ⊢
  have hnodup : (Columns.arrange m.columns.shown picked placement false).Nodup :=
    (Columns.nodup_arrange_iff hshown).mpr (Or.inr hpicked)
  have hindex : ∀ {id : ColumnId} {i j : Nat},
      (Columns.arrange m.columns.shown picked placement false)[i]? = some id →
      (Columns.arrange m.columns.shown picked placement false)[j]? = some id → i = j := by
    intro id i j hi hj
    obtain ⟨hlt, -⟩ := List.getElem?_eq_some_iff.mp hi
    apply (List.getElem?_inj hlt hnodup).mp (hi.trans hj.symm)
  constructor
  · intro h
    constructor
    case kept =>
      intro i id hi hid
      apply h.kept id i _ hi (Columns.getElem?_arrange_keptIndex hi hid)
    case placed =>
      intro k id hk
      have hplaced :
          (Columns.arrange m.columns.shown picked placement false)[
            Columns.placedIndex m.columns.shown picked placement k]? = some id :=
        Columns.getElem?_arrange_placedIndex hk
      by_cases hid : id ∈ m.columns.shown
      · obtain ⟨i, hi⟩ := List.mem_iff_getElem?.mp hid
        rw [isSelected_of_getElem? hshown hi]
        apply h.kept id i _ hi hplaced
      · rw [isSelected_of_not_mem hid]
        apply h.fresh id _ hid hplaced
  · intro h
    have hselected : ∀ (id : ColumnId) (j : Nat),
        (Columns.arrange m.columns.shown picked placement false)[j]? = some id →
        m.selection.isColumnSelected j = m.isSelected id := by
      intro id j hj
      obtain ⟨hid, hkept⟩ | hplaced := Columns.mem_arrange_iff.mp (List.mem_of_getElem? hj)
      · obtain ⟨i, hi⟩ := List.mem_iff_getElem?.mp hid
        rw [isSelected_of_getElem? hshown hi, ← h.kept i id hi hkept]
        rw [hindex hj (Columns.getElem?_arrange_keptIndex hi hkept)]
      · obtain ⟨k, hk⟩ := List.mem_iff_getElem?.mp hplaced
        rw [← h.placed k id hk]
        rw [hindex hj (Columns.getElem?_arrange_placedIndex hk)]
    constructor
    case kept =>
      intro id i j hi hj
      rw [hselected id j hj, isSelected_of_getElem? hshown hi]
    case fresh =>
      intro id j hid hj
      rw [hselected id j hj, isSelected_of_not_mem hid]

/-- Showing or hiding columns, each of them named once, keeps the selection with its columns exactly
if the selection agrees with itself at the old and the new index of each column.  For hidden
columns, the new index of a column is the number of columns before it that stay. -/
theorem selection_follows_shown_iff (h : m.columns.IsWellFormed) (hshown : m.columns.shown.Nodup)
    (source : Columns.Source) {indexes : List Nat} (hindexes : indexes.Nodup) :
  (∀ placement : Columns.Placement,
      m.selection.FollowsColumns (m.showColumns source indexes placement false).selection
          m.columns.shown (m.showColumns source indexes placement false).columns.shown
        ↔ m.Agrees (m.columns.pick source indexes) placement)
    ∧ (m.selection.FollowsColumns (m.hideColumns source indexes).selection
          m.columns.shown (m.hideColumns source indexes).columns.shown
        ↔ ∀ (i : Nat) (id : ColumnId), m.columns.shown[i]? = some id →
            id ∉ m.columns.pick source indexes →
            m.selection.isColumnSelected
                (Columns.keptBefore m.columns.shown (m.columns.pick source indexes) i)
              = m.selection.isColumnSelected i)
  := by
  have hpicked : (m.columns.pick source indexes).Nodup :=
    (h.nodup_pick_iff hshown source indexes).mpr (hindexes.filter _)
  have hshow := followsColumns_showColumns_iff hshown hpicked
  have hindex : ∀ i : Nat, Columns.keptIndex m.columns.shown (m.columns.pick source indexes)
      .removeOnly i = Columns.keptBefore m.columns.shown (m.columns.pick source indexes) i := by
    intro i
    rw [Columns.keptIndex]
    split
    · rfl
    · rfl
  constructor
  · apply hshow
  · apply (hshow .removeOnly).trans
    constructor
    · intro hagrees i id hi hid
      rw [← hindex]
      apply hagrees.kept i id hi hid
    · intro hkept
      constructor
      · intro i id hi hid
        rw [hindex]
        apply hkept i id hi hid
      · intro k id hk
        cases hk

/-- The model of three columns of which some are selected. -/
def threeColumns (ranges : List Range) : Model Rat Table :=
  { Model.ofData (Table.generate 3 2 fun x y => .text (toString (x + y)))
      (ColumnSchema.ofNames ["A", "B", "C"]) Config.default with
    selection := ⟨ranges⟩ }

theorem shown_threeColumns (ranges : List Range) :
  (threeColumns ranges).columns.shown = [.data 0, .data 1, .data 2]
  := by cbv

/-- Hiding the last column leaves the first one selected. -/
theorem selection_follows_shown_iff_last :
  let m := threeColumns [.columns 0 0]
  m.columns.IsWellFormed ∧ m.columns.shown.Nodup ∧ [2].Nodup
    ∧ m.selection.FollowsColumns (m.hideColumns .all [2]).selection
        m.columns.shown (m.hideColumns .all [2]).columns.shown
  := by
  intro m
  have h : m.columns.IsWellFormed := Columns.isWellFormed_ofSchema _ _
  have hshown : m.columns.shown.Nodup := by
    rw [shown_threeColumns]
    decide
  have hindexes : [2].Nodup := List.nodup_singleton 2
  have hpick : m.columns.pick .all [2] = [.data 2] := by cbv
  refine ⟨h, hshown, hindexes, (selection_follows_shown_iff h hshown .all hindexes).2.mpr ?_⟩
  rw [hpick, shown_threeColumns]
  intro i id hi hid
  cases i with
  | zero => rfl
  | succ i =>
    cases i with
    | zero => rfl
    | succ i =>
      cases i with
      | zero =>
        obtain rfl := Option.some.inj hi
        cases hid List.mem_cons_self
      | succ i => cases hi

/-- The second of three columns is selected.  When the first one is hidden, the third one is
selected in its place. -/
theorem not_followsColumns_hideColumns :
  let m := threeColumns [.columns 1 1]
  let hidden := m.hideColumns .all [0]
  m.columns.shown = [.data 0, .data 1, .data 2]
    ∧ hidden.columns.shown = [.data 1, .data 2]
    ∧ (m.selection.isColumnSelected 1, m.selection.isColumnSelected 2) = (true, false)
    ∧ (hidden.selection.isColumnSelected 0, hidden.selection.isColumnSelected 1) = (false, true)
    ∧ ¬ m.selection.FollowsColumns hidden.selection m.columns.shown hidden.columns.shown
  := by
  intro m hidden
  have hshown : m.columns.shown = [.data 0, .data 1, .data 2] := shown_threeColumns _
  have hkept : hidden.columns.shown = [.data 1, .data 2] := by cbv
  have hselection : hidden.selection = m.selection := selection_showColumns m ..
  rw [hselection]
  refine ⟨hshown, hkept, rfl, rfl, ?_⟩
  intro hfollows
  rw [hshown, hkept] at hfollows
  have hthird : m.selection.isColumnSelected 1 = m.selection.isColumnSelected 2 :=
    hfollows.kept (.data 2) 2 1 rfl rfl
  cases hthird

end Model

end DataGrid
