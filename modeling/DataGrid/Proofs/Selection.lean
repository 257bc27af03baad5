import DataGrid.Selection

/-!
# Selected columns

The selected columns are listed in ascending order, each once.  Columns that are selected in place
of others are the only ones that are.  An ascending list is covered by its runs (`RunsCover`), and
it has no gap exactly if it holds every number between two of its own (`IsGapFree`).
-/

namespace DataGrid

namespace Selection

theorem dedup_eq_self : ∀ {xs : List Nat}, xs.Pairwise (· < ·) → dedup xs = xs
  | [], _ => rfl
  | [_], _ => rfl
  | a :: b :: rest, h => by
    obtain ⟨hhead, htail⟩ := List.pairwise_cons.mp h
    have hab : a ≠ b := Nat.ne_of_lt (hhead b List.mem_cons_self)
    rw [dedup, if_neg hab, dedup_eq_self htail]

theorem sorted_eq_self {xs : List Nat} (h : xs.Pairwise (· < ·)) :
  sorted xs = xs
  := by
  have hle : xs.Pairwise fun a b => decide (a ≤ b) = true := by
    apply h.imp
    intro a b hab
    apply decide_eq_true (Nat.le_of_lt hab)
  rw [sorted, List.mergeSort_of_pairwise hle, dedup_eq_self h]

theorem sorted_indexes (first last : Nat) :
  sorted (Range.indexes first last) = Range.indexes first last
  := sorted_eq_self List.pairwise_lt_range'

theorem mem_dedup {i : Nat} : ∀ {xs : List Nat}, i ∈ dedup xs ↔ i ∈ xs
  | [] => Iff.rfl
  | [_] => Iff.rfl
  | a :: b :: rest => by
    rw [dedup]
    split
    case isTrue hab =>
      rw [mem_dedup, hab]
      simp
    case isFalse => rw [List.mem_cons, mem_dedup, ← List.mem_cons]

theorem mem_sorted {i : Nat} {xs : List Nat} :
  i ∈ sorted xs ↔ i ∈ xs
  := by
  rw [sorted, mem_dedup, List.mem_mergeSort]

theorem pairwise_lt_dedup : ∀ {xs : List Nat}, xs.Pairwise (· ≤ ·) → (dedup xs).Pairwise (· < ·)
  | [], _ => List.Pairwise.nil
  | [_], _ => List.pairwise_singleton _ _
  | a :: b :: rest, h => by
    obtain ⟨hhead, htail⟩ := List.pairwise_cons.mp h
    rw [dedup]
    split
    case isTrue => apply pairwise_lt_dedup htail
    case isFalse hab =>
      apply List.pairwise_cons.mpr ⟨?_, pairwise_lt_dedup htail⟩
      intro i hi
      have hab' := hhead b List.mem_cons_self
      obtain rfl | hrest := List.mem_cons.mp (mem_dedup.mp hi)
      · omega
      · have hbi := (List.pairwise_cons.mp htail).1 i hrest
        omega

theorem pairwise_le_mergeSort (xs : List Nat) :
  (xs.mergeSort (· ≤ ·)).Pairwise (· ≤ ·)
  := by
  let le (a b : Nat) : Bool := decide (a ≤ b)
  have htrans (a b c : Nat) (hab : le a b = true) (hbc : le b c = true) : le a c = true := by
    apply decide_eq_true (Nat.le_trans (of_decide_eq_true hab) (of_decide_eq_true hbc))
  have htotal (a b : Nat) : (le a b || le b a) = true := by
    simp only [le, Bool.or_eq_true, decide_eq_true_eq]
    apply Nat.le_total
  apply (List.pairwise_mergeSort htrans htotal xs).imp
  intro a b hab
  apply of_decide_eq_true hab

theorem pairwise_lt_sorted (xs : List Nat) :
  (sorted xs).Pairwise (· < ·)
  := pairwise_lt_dedup (pairwise_le_mergeSort xs)

/-- The columns of a range that takes the place of all other columns are the selected ones. -/
theorem selectedColumns_selectColumns (s : Selection) (first last : Nat) :
  (s.selectColumns first last).selectedColumns
    = Range.indexes (min first last) (max first last)
  := by
  have hother : (s.ranges.filter (·.kind ≠ .columns)).filter (·.kind = .columns) = [] := by
    rw [List.filter_filter, List.filter_eq_nil_iff]
    intro r _
    simp
  have hranges :
      (s.selectColumns first last).ranges.filter (·.kind = .columns)
        = [Range.columns first last] := by
    rw [selectColumns, List.filter_append, hother]
    rfl
  rw [selectedColumns, hranges, List.flatMap_singleton]
  apply sorted_indexes

/-! ### Runs -/

/-- The stretches hold the numbers of a list and no others, and each ends well before the next one
begins. -/
structure RunsCover (stretches : List (Nat × Nat)) (xs : List Nat) : Prop where
  ordered : ∀ run ∈ stretches, run.1 ≤ run.2
  apart : stretches.Pairwise fun run next => run.2 + 1 < next.1
  mem_iff : ∀ i : Nat, (∃ run ∈ stretches, run.1 ≤ i ∧ i ≤ run.2) ↔ i ∈ xs

namespace RunsCover

variable {a first last : Nat} {more : List (Nat × Nat)} {rest : List Nat}

theorem first_mem (h : RunsCover ((first, last) :: more) rest) :
  first ∈ rest
  := (h.mem_iff first).mp
    ⟨_, List.mem_cons_self, Nat.le_refl first, h.ordered _ List.mem_cons_self⟩

/-- The numbers in the stretches, the first one apart. -/
theorem exists_mem_cons {run : Nat × Nat} {i : Nat} :
  (∃ r ∈ run :: more, r.1 ≤ i ∧ i ≤ r.2)
    ↔ (run.1 ≤ i ∧ i ≤ run.2) ∨ ∃ r ∈ more, r.1 ≤ i ∧ i ≤ r.2
  := by
  simp only [List.mem_cons, or_and_right, exists_or, exists_eq_left]

/-- A number next to the first stretch makes it longer. -/
theorem extend (h : RunsCover ((a + 1, last) :: more) rest) :
  RunsCover ((a, last) :: more) (a :: rest)
  := by
  obtain ⟨hlast, hordered⟩ := List.forall_mem_cons.mp h.ordered
  obtain ⟨hhead, htail⟩ := List.pairwise_cons.mp h.apart
  constructor
  case ordered =>
    rw [List.forall_mem_cons]
    apply And.intro (Nat.le_of_succ_le hlast) hordered
  case apart =>
    rw [List.pairwise_cons]
    apply And.intro hhead htail
  case mem_iff =>
    intro i
    rw [List.mem_cons, ← h.mem_iff, exists_mem_cons, exists_mem_cons, ← or_assoc]
    apply or_congr_left
    dsimp only at hlast ⊢
    omega

/-- A number well before the first stretch stands alone. -/
theorem cons (h : RunsCover ((first, last) :: more) rest) (ha : a + 1 < first) :
  RunsCover ((a, a) :: (first, last) :: more) (a :: rest)
  := by
  obtain ⟨hlast, -⟩ := List.forall_mem_cons.mp h.ordered
  obtain ⟨hhead, -⟩ := List.pairwise_cons.mp h.apart
  constructor
  case ordered =>
    rw [List.forall_mem_cons]
    apply And.intro (Nat.le_refl a) h.ordered
  case apart =>
    rw [List.pairwise_cons, List.forall_mem_cons]
    refine ⟨⟨ha, ?_⟩, h.apart⟩
    intro next hnext
    have hbehind := hhead next hnext
    dsimp only at hlast hbehind ⊢
    omega
  case mem_iff =>
    intro i
    rw [exists_mem_cons, h.mem_iff, List.mem_cons]
    apply or_congr_left
    dsimp only
    omega

end RunsCover

/-- The runs of an ascending list cover it. -/
theorem runsCover_runs : ∀ {xs : List Nat}, xs.Pairwise (· < ·) → RunsCover (runs xs) xs
  | [], _ => by
    constructor
    · simp [runs]
    · apply List.Pairwise.nil
    · simp [runs]
  | a :: rest, h => by
    obtain ⟨hhead, htail⟩ := List.pairwise_cons.mp h
    have ih := runsCover_runs htail
    rw [runs]
    split
    case h_1 first last more hruns =>
      rw [hruns] at ih
      have hfirst : a < first := hhead first ih.first_mem
      split
      case isTrue hnext =>
        subst hnext
        apply ih.extend
      case isFalse hgap =>
        apply ih.cons
        omega
    case h_2 hruns =>
      rw [hruns] at ih
      have hnone : ∀ i, i ∉ rest := by
        intro i hi
        obtain ⟨_, hmem, -⟩ := (ih.mem_iff i).mpr hi
        cases hmem
      obtain rfl := List.eq_nil_iff_forall_not_mem.mpr hnone
      constructor
      · simp
      · apply List.pairwise_singleton
      · intro i
        simp
        omega

/-! ### Lists without a gap -/

/-- The list holds every number between two of its own. -/
def IsGapFree (xs : List Nat) : Prop :=
  ∀ i ∈ xs, ∀ j ∈ xs, ∀ k : Nat, i ≤ k → k ≤ j → k ∈ xs

theorem eq_range'_of_isContiguous :
    ∀ {a : Nat} {rest : List Nat}, isContiguous (a :: rest) →
      a :: rest = List.range' a (rest.length + 1)
  | a, [], _ => rfl
  | a, b :: rest, h => by
    rw [isContiguous, Bool.and_eq_true, decide_eq_true_iff] at h
    obtain ⟨rfl, hrest⟩ := h
    rw [List.length_cons, List.range'_succ, ← eq_range'_of_isContiguous hrest]

theorem isGapFree_of_isContiguous : ∀ {xs : List Nat}, isContiguous xs → IsGapFree xs
  | [], _ => by
    intro i hi
    cases hi
  | a :: rest, h => by
    rw [eq_range'_of_isContiguous h]
    intro i hi j hj k hik hkj
    rw [List.mem_range'_1] at hi hj ⊢
    omega

/-- A list without a gap holds what lies between its ends. -/
theorem mem_iff_of_isContiguous {xs : List Nat} {first last i : Nat} (h : isContiguous xs)
    (hfirst : xs.head? = some first) (hlast : xs.getLast? = some last) :
  i ∈ xs ↔ first ≤ i ∧ i ≤ last
  := by
  obtain ⟨rest, rfl⟩ := List.head?_eq_some_iff.mp hfirst
  rw [eq_range'_of_isContiguous h] at hlast ⊢
  rw [List.getLast?_range', if_neg (Nat.succ_ne_zero _)] at hlast
  obtain rfl := Option.some.inj hlast
  rw [List.mem_range'_1]
  omega

theorem isContiguous_of_isGapFree :
    ∀ {xs : List Nat}, xs.Pairwise (· < ·) → IsGapFree xs → isContiguous xs
  | [], _, _ => rfl
  | [_], _, _ => rfl
  | a :: b :: rest, hxs, h => by
    obtain ⟨hhead, htail⟩ := List.pairwise_cons.mp hxs
    have hab : a < b := hhead b List.mem_cons_self
    have hnext : b = a + 1 := by
      have hmem := h a List.mem_cons_self b (by simp) (a + 1) (Nat.le_succ a) hab
      obtain heq | hrest := List.mem_cons.mp ((List.mem_cons.mp hmem).resolve_left (by omega))
      · apply heq.symm
      · have hlt := (List.pairwise_cons.mp htail).1 _ hrest
        omega
    have hrest : IsGapFree (b :: rest) := by
      intro i hi j hj k hik hkj
      have hmem := h i (List.mem_cons_of_mem a hi) j (List.mem_cons_of_mem a hj) k hik hkj
      have hai := hhead i hi
      apply (List.mem_cons.mp hmem).resolve_left
      omega
    rw [isContiguous, Bool.and_eq_true, decide_eq_true_iff]
    apply And.intro hnext (isContiguous_of_isGapFree htail hrest)

/-- An ascending list steps by one throughout exactly if it has no gap. -/
theorem isContiguous_iff_isGapFree {xs : List Nat} (h : xs.Pairwise (· < ·)) :
  isContiguous xs ↔ IsGapFree xs
  := ⟨isGapFree_of_isContiguous, isContiguous_of_isGapFree h⟩

end Selection

end DataGrid
