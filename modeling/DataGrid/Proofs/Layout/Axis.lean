import Mathlib.Algebra.Order.Ring.Rat
import Mathlib.Data.List.Pairwise
import Mathlib.Order.Monotone.Basic
import Mathlib.Tactic.ByContra
import Mathlib.Tactic.Linarith
import Mathlib.Tactic.Push

/-!
# Scrolling along an axis

Items stand one after the other along an axis, the fixed ones first, and `hidden` of those behind
them are scrolled out.  `edge i` is where item `i` would begin if the axis were not scrolled.  A run
of items is as long as it would be without scrolling, so a run from which some items are scrolled out
reaches over items behind it (`exists_offset_lt_of_not_stands`), and any other run ends before the
items behind it (`offset_add_le`).
-/

namespace DataGrid

namespace Axis

/-- An item is fixed, or it stands behind those that are scrolled out. -/
def Stands (fixed hidden i : Nat) : Prop := i < fixed ∨ fixed + hidden ≤ i

/-- Where an item begins. -/
def offset (edge : Nat → Rat) (fixed hidden i : Nat) : Rat :=
  if i < fixed then edge i else edge fixed + (edge i - edge (fixed + hidden))

section Offset

variable {edge : Nat → Rat} {fixed hidden i : Nat}

theorem offset_of_lt (hi : i < fixed) :
  offset edge fixed hidden i = edge i
  := if_pos hi

theorem offset_of_le (hi : fixed + hidden ≤ i) :
  offset edge fixed hidden i = edge fixed + (edge i - edge (fixed + hidden))
  := if_neg (Nat.not_lt.mpr (Nat.le_trans (Nat.le_add_right _ _) hi))

/-- Where items are scrolled out, those behind them stand no further along. -/
theorem offset_anti (hedge : Monotone edge) {hidden' : Nat} (hhidden : hidden ≤ hidden')
    (hi : fixed + hidden' ≤ i) :
  offset edge fixed hidden' i ≤ offset edge fixed hidden i
  := by
  have hskipped := hedge (Nat.add_le_add_left hhidden fixed)
  rw [offset_of_le hi, offset_of_le (Nat.le_trans (Nat.add_le_add_left hhidden fixed) hi)]
  linarith

variable {j stop : Nat} (hedge : Monotone edge) (hi : Stands fixed hidden i)
  (hj : Stands fixed hidden j)

include hedge hi hj

/-- A run of items of which none is scrolled out ends before the items behind it. -/
theorem offset_add_le (hstop : i ≤ stop) (hle : stop ≤ j)
    (hwhole : ∀ k, i ≤ k → k < stop → Stands fixed hidden k) :
  offset edge fixed hidden i + (edge stop - edge i) ≤ offset edge fixed hidden j
  := by
  have hstopj := hedge hle
  obtain hi | hi := hi
  · rw [offset_of_lt hi]
    obtain hj | hj := hj
    · rw [offset_of_lt hj]
      linarith
    · rw [offset_of_le hj]
      obtain hfixed | hfixed := Nat.lt_or_ge fixed stop
      · -- the first item that scrolls belongs to the run, so nothing is scrolled out
        have hnone : fixed + hidden = fixed := by
          obtain h | h := hwhole fixed (Nat.le_of_lt hi) hfixed
          · exact absurd h (Nat.lt_irrefl fixed)
          · exact Nat.le_antisymm h (Nat.le_add_right _ _)
        rw [hnone]
        linarith
      · have hfixedEdge := hedge hfixed
        have hscrolled := hedge hj
        linarith
  · rw [offset_of_le hi, offset_of_le (Nat.le_trans hi (Nat.le_trans hstop hle))]
    linarith

/-- A run of items reaches beyond the beginning of each of its items. -/
theorem offset_le_and_lt_add (hle : i ≤ j) (hlt : edge j < edge stop) :
  offset edge fixed hidden i ≤ offset edge fixed hidden j
    ∧ offset edge fixed hidden j < offset edge fixed hidden i + (edge stop - edge i)
  := by
  have hij := hedge hle
  have hskip := hedge (Nat.le_add_right fixed hidden)
  obtain hi | hi := hi
  · rw [offset_of_lt hi]
    obtain hj | hj := hj
    · rw [offset_of_lt hj]
      constructor <;> linarith
    · rw [offset_of_le hj]
      have hbefore := hedge (Nat.le_of_lt hi)
      have hbehind := hedge hj
      constructor <;> linarith
  · rw [offset_of_le hi, offset_of_le (Nat.le_trans hi hle)]
    constructor <;> linarith

omit hj in
/-- A run from which an item is scrolled out reaches over the first item behind it, if there is
one. -/
theorem exists_offset_lt_of_not_stands (hij : i ≤ j) (hjstop : j < stop)
    (hnot : ¬ Stands fixed hidden j) {last : Nat} (hlast : Stands fixed hidden last)
    (hle : stop ≤ last) (hstrict : ∀ a b, a < b → b ≤ last → edge a < edge b) :
  ∃ k, Stands fixed hidden k ∧ stop ≤ k ∧ k ≤ last
    ∧ offset edge fixed hidden i ≤ offset edge fixed hidden k
    ∧ offset edge fixed hidden k < offset edge fixed hidden i + (edge stop - edge i)
  := by
  have hscrolledOut : fixed ≤ j ∧ j < fixed + hidden :=
    ⟨Nat.not_lt.mp fun h => hnot (.inl h), Nat.not_le.mp fun h => hnot (.inr h)⟩
  have hifixed : i < fixed := by
    obtain hi | hi := hi
    · exact hi
    · omega
  have hlastScrolls : fixed + hidden ≤ last := by
    obtain hlast | hlast := hlast
    · omega
    · exact hlast
  have hbefore := hedge (Nat.le_of_lt hifixed)
  rw [offset_of_lt hifixed]
  obtain hinside | hbehind := Nat.lt_or_ge stop (fixed + hidden)
  · have hreach : edge fixed < edge stop := hstrict _ _ (by omega) hle
    refine ⟨fixed + hidden, .inr (Nat.le_refl _), Nat.le_of_lt hinside, hlastScrolls, ?_⟩
    rw [offset_of_le (Nat.le_refl _)]
    constructor <;> linarith
  · have hskip : edge fixed < edge (fixed + hidden) := hstrict _ _ (by omega) hlastScrolls
    have hafter := hedge hbehind
    refine ⟨stop, .inr hbehind, Nat.le_refl _, hle, ?_⟩
    rw [offset_of_le hbehind]
    constructor <;> linarith

end Offset

/-! ### What is on the screen -/

/-- The items on the screen, each behind the one in front of it: `on i` says that item `i` is among
them.  They begin with the fixed ones and go on with those that scroll. -/
structure Screen (edge : Nat → Rat) (fixed hidden : Nat) (on : Nat → Prop) : Prop where
  zero : edge 0 = 0
  monotone : Monotone edge
  lt_succ : ∀ i last, on last → i ≤ last → edge i < edge (i + 1)
  stands : ∀ i, on i → Stands fixed hidden i
  of_le : ∀ i last, on last → Stands fixed hidden i → i ≤ last → on i

/-- The fixed items and the first ones of those that scroll are a screen. -/
theorem Screen.of_iff {edge : Nat → Rat} {fixed hidden n : Nat} {on : Nat → Prop}
    (hzero : edge 0 = 0) (hmonotone : Monotone edge)
    (hlt : ∀ i last, on last → i ≤ last → edge i < edge (i + 1))
    (hon : ∀ i, on i ↔ i < fixed ∨ fixed + hidden ≤ i ∧ i < fixed + hidden + n) :
  Screen edge fixed hidden on
  := by
  constructor
  case zero => apply hzero
  case monotone => apply hmonotone
  case lt_succ => apply hlt
  case stands =>
    intro i hi
    obtain hfixed | ⟨hfirst, -⟩ := (hon i).mp hi
    · exact .inl hfixed
    · exact .inr hfirst
  case of_le =>
    intro i last hlast hstands hle
    apply (hon i).mpr
    have hlast := (hon last).mp hlast
    rw [Stands] at hstands
    omega

/-- Nothing behind a run of items is on the screen while one of them is not. -/
def IsWhole (on : Nat → Prop) (first count : Nat) : Prop :=
  ∀ i, first ≤ i → i < first + count → ¬ on i → ∀ last, on last → last < first + count

section Screen

variable {edge : Nat → Rat} {fixed hidden i j count : Nat} {on : Nat → Prop}
  (h : Screen edge fixed hidden on)

include h

theorem Screen.offset_nonneg (hi : on i) :
  0 ≤ offset edge fixed hidden i
  := by
  have hedge : ∀ i, 0 ≤ edge i := fun i => h.zero ▸ h.monotone (Nat.zero_le i)
  obtain hi | hi := h.stands i hi
  · rw [offset_of_lt hi]
    apply hedge
  · rw [offset_of_le hi]
    have hfixed := hedge fixed
    have hbehind := h.monotone hi
    linarith

theorem Screen.lt {last : Nat} (hlast : on last) (hij : i < j) (hj : j ≤ last + 1) :
  edge i < edge j
  := by
  have hstep := h.lt_succ i last hlast (by omega)
  have hrest := h.monotone (Nat.succ_le_of_lt hij)
  apply lt_of_lt_of_le hstep hrest

/-- A run of fixed items, a run of items that scroll and every run of an axis that is not scrolled is
whole. -/
theorem Screen.isWhole (hi : on i) (hpart : i + count ≤ fixed ∨ fixed ≤ i ∨ hidden = 0) :
  IsWhole on i count
  := by
  intro j hij hj hoff last hlast
  by_contra hle
  have hscrolledOut : ¬ Stands fixed hidden j := by
    intro hstands
    apply hoff (h.of_le j last hlast hstands (by omega))
  have histands := h.stands i hi
  rw [Stands] at hscrolledOut histands
  omega

/-- A whole run ends before what stands behind it. -/
theorem Screen.offset_add_le (hi : on i) (hj : on j) (hle : i + count ≤ j)
    (hwhole : IsWhole on i count) :
  offset edge fixed hidden i + (edge (i + count) - edge i) ≤ offset edge fixed hidden j
  := by
  apply Axis.offset_add_le h.monotone (h.stands i hi) (h.stands j hj) (Nat.le_add_right _ _) hle
  intro k hk hlt
  apply h.stands
  by_contra hnot
  have hbehind := hwhole k hk hlt hnot j hj
  omega

/-- A run reaches beyond the beginning of each of its items. -/
theorem Screen.offset_le_and_lt_add (hi : on i) (hj : on j) (hle : i ≤ j) (hlt : j < i + count) :
  offset edge fixed hidden i ≤ offset edge fixed hidden j
    ∧ offset edge fixed hidden j
      < offset edge fixed hidden i + (edge (i + count) - edge i)
  := by
  apply Axis.offset_le_and_lt_add h.monotone (h.stands i hi) (h.stands j hj) hle
  apply lt_of_lt_of_le (h.lt_succ j j hj (Nat.le_refl j)) (h.monotone hlt)

/-- A run that is not whole reaches over an item behind it. -/
theorem Screen.exists_reached (hi : on i) (hnot : ¬ IsWhole on i count) :
  ∃ k, on k ∧ i + count ≤ k
    ∧ offset edge fixed hidden i ≤ offset edge fixed hidden k
    ∧ offset edge fixed hidden k
      < offset edge fixed hidden i + (edge (i + count) - edge i)
  := by
  simp only [IsWhole, not_forall, not_lt] at hnot
  obtain ⟨j, hij, hj, hoff, last, hlast, hle⟩ := hnot
  have hscrolledOut : ¬ Stands fixed hidden j := by
    intro hstands
    apply hoff (h.of_le j last hlast hstands (by omega))
  obtain ⟨k, hk, hstop, hklast, hreached⟩ := exists_offset_lt_of_not_stands h.monotone
    (h.stands i hi) hij hj hscrolledOut (h.stands last hlast) hle
    fun a b hab hb => h.lt hlast hab (Nat.le_succ_of_le hb)
  exact ⟨k, h.of_le k last hlast hk hklast, hstop, hreached⟩

end Screen

/-! ### Runs -/

/-- A stretch of an axis.  If it is a run of items, it says which is the first one and how many there
are. -/
structure Run where
  low : Rat
  high : Rat
  items? : Option (Nat × Nat)

namespace Run

/-- An item belongs to the run. -/
def Holds (r : Run) (j : Nat) : Prop := ∃ i count, r.items? = some (i, count) ∧ i ≤ j ∧ j < i + count

/-- Where a stretch is: in front of all items, or where the items of its run are. -/
structure IsPlaced (edge : Nat → Rat) (fixed hidden : Nat) (on : Nat → Prop) (base : Rat)
    (r : Run) : Prop where
  high_le : r.items? = none → r.high ≤ base
  low_eq : ∀ i count, r.items? = some (i, count) → r.low = base + offset edge fixed hidden i
  high_eq : ∀ i count, r.items? = some (i, count) → r.high = r.low + (edge (i + count) - edge i)
  on_first : ∀ i count, r.items? = some (i, count) → on i

section Placed

variable {edge : Nat → Rat} {fixed hidden : Nat} {on : Nat → Prop} {base x : Rat} {r r' : Run}
  (h : Screen edge fixed hidden on) (hr : r.IsPlaced edge fixed hidden on base)
  (hr' : r'.IsPlaced edge fixed hidden on base)

include h hr

/-- A run reaches beyond the beginning of each of its items. -/
theorem IsPlaced.low_le_and_lt_high {j : Nat} (hj : on j) (hholds : r.Holds j) :
  r.low ≤ base + offset edge fixed hidden j ∧ base + offset edge fixed hidden j < r.high
  := by
  obtain ⟨i, count, hitems, hle, hlt⟩ := hholds
  obtain ⟨hlow, hhigh⟩ := h.offset_le_and_lt_add (hr.on_first i count hitems) hj hle hlt
  rw [hr.high_eq i count hitems, hr.low_eq i count hitems]
  constructor <;> linarith

/-- A run that is not whole reaches over an item that does not belong to it. -/
theorem IsPlaced.exists_reached {i count : Nat} (hitems : r.items? = some (i, count))
    (hnot : ¬ IsWhole on i count) :
  ∃ j, on j ∧ ¬ r.Holds j
    ∧ r.low ≤ base + offset edge fixed hidden j ∧ base + offset edge fixed hidden j < r.high
  := by
  obtain ⟨j, hj, hle, hlow, hhigh⟩ := h.exists_reached (hr.on_first i count hitems) hnot
  rw [hr.high_eq i count hitems, hr.low_eq i count hitems]
  refine ⟨j, hj, ?_, ?_, ?_⟩
  · rintro ⟨i', count', hitems', -, hlt⟩
    obtain ⟨rfl, rfl⟩ := Prod.mk.inj (Option.some.inj (hitems.symm.trans hitems'))
    omega
  · linarith
  · linarith

/-- A whole run ends before what does not belong to it and does not stand in front of it. -/
theorem IsPlaced.high_le_low (hr' : r'.IsPlaced edge fixed hidden on base)
    {i count j count' : Nat} (hitems : r.items? = some (i, count))
    (hitems' : r'.items? = some (j, count')) (hwhole : IsWhole on i count) (hij : i ≤ j)
    (hholds : ¬ r.Holds j) :
  r.high ≤ r'.low
  := by
  have hle : i + count ≤ j := by
    by_contra hlt
    apply hholds ⟨i, count, hitems, hij, by omega⟩
  have hends := h.offset_add_le (hr.on_first i count hitems) (hr'.on_first j count' hitems') hle
    hwhole
  rw [hr.high_eq i count hitems, hr.low_eq i count hitems, hr'.low_eq j count' hitems']
  linarith

/-- What stands in front of all items ends before any of them. -/
theorem IsPlaced.high_le_low_of_none (hr' : r'.IsPlaced edge fixed hidden on base)
    {j count' : Nat} (hitems : r.items? = none) (hitems' : r'.items? = some (j, count')) :
  r.high ≤ r'.low
  := by
  have hoffset := h.offset_nonneg (hr'.on_first j count' hitems')
  have hbase := hr.high_le hitems
  rw [hr'.low_eq j count' hitems']
  linarith

include hr' in
/-- Two stretches with a point in common stand in front of all items, or one of them holds the first
item of the other. -/
theorem IsPlaced.holds_of_meet (hwhole : ∀ i count, r.items? = some (i, count) → IsWhole on i count)
    (hwhole' : ∀ i count, r'.items? = some (i, count) → IsWhole on i count)
    (hx : r.low ≤ x ∧ x < r.high) (hx' : r'.low ≤ x ∧ x < r'.high) :
  (r.items? = none ∧ r'.items? = none)
    ∨ (∃ j count, r'.items? = some (j, count) ∧ r.Holds j)
    ∨ (∃ i count, r.items? = some (i, count) ∧ r'.Holds i)
  := by
  have hmeet : ¬ r.high ≤ r'.low := by
    intro hle
    linarith [hx.2, hx'.1]
  have hmeet' : ¬ r'.high ≤ r.low := by
    intro hle
    linarith [hx'.2, hx.1]
  cases hitems : r.items? with
  | none =>
    cases hitems' : r'.items? with
    | none => exact .inl ⟨rfl, rfl⟩
    | some items' => exact absurd (hr.high_le_low_of_none h hr' hitems hitems') hmeet
  | some items =>
    obtain ⟨i, count⟩ := items
    cases hitems' : r'.items? with
    | none => exact absurd (hr'.high_le_low_of_none h hr hitems' hitems) hmeet'
    | some items' =>
      obtain ⟨j, count'⟩ := items'
      right
      obtain hij | hji := Nat.le_total i j
      · left
        refine ⟨j, count', rfl, ?_⟩
        by_contra hholds
        apply hmeet (hr.high_le_low h hr' hitems hitems' (hwhole i count hitems) hij hholds)
      · right
        refine ⟨i, count, rfl, ?_⟩
        by_contra hholds
        apply hmeet' (hr'.high_le_low h hr hitems' hitems (hwhole' j count' hitems') hji hholds)

end Placed

end Run

/-! ### Intervals without gaps -/

/-- Intervals that follow one another from a point on, without a gap. -/
def Follow (start : Rat) : List (Rat × Rat) → Prop
  | [] => True
  | e :: rest => e.1 = start ∧ e.1 ≤ e.2 ∧ Follow e.2 rest

/-- Where intervals end that begin at a point. -/
def endOf (start : Rat) (intervals : List (Rat × Rat)) : Rat :=
  (intervals.getLast?.map Prod.snd).getD start

theorem endOf_cons (start : Rat) (e : Rat × Rat) (rest : List (Rat × Rat)) :
  endOf start (e :: rest) = endOf e.2 rest
  := by
  rw [endOf, endOf, List.getLast?_cons]
  cases rest.getLast? <;> rfl

section Follow

variable {intervals intervals' : List (Rat × Rat)}

theorem Follow.append {start : Rat} (h : Follow start intervals)
    (h' : Follow (endOf start intervals) intervals') :
  Follow start (intervals ++ intervals')
  := by
  induction intervals generalizing start with
  | nil => apply h'
  | cons e rest ih =>
    obtain ⟨hstart, hle, hrest⟩ := h
    rw [endOf_cons] at h'
    exact ⟨hstart, hle, ih hrest h'⟩

theorem Follow.start_le {start : Rat} (h : Follow start intervals) {e : Rat × Rat}
    (he : e ∈ intervals) :
  start ≤ e.1
  := by
  induction intervals generalizing start with
  | nil => cases he
  | cons e' rest ih =>
    obtain ⟨hstart, hle, hrest⟩ := h
    obtain rfl | he := List.mem_cons.mp he
    · apply le_of_eq hstart.symm
    · have hbehind := ih hrest he
      linarith

theorem Follow.fst_le_snd {start : Rat} (h : Follow start intervals) {e : Rat × Rat}
    (he : e ∈ intervals) :
  e.1 ≤ e.2
  := by
  induction intervals generalizing start with
  | nil => cases he
  | cons e' rest ih =>
    obtain ⟨-, hle, hrest⟩ := h
    obtain rfl | he := List.mem_cons.mp he
    · apply hle
    · apply ih hrest he

theorem Follow.start_le_endOf {start : Rat} (h : Follow start intervals) :
  start ≤ endOf start intervals
  := by
  induction intervals generalizing start with
  | nil => apply le_refl
  | cons e rest ih =>
    obtain ⟨hstart, hle, hrest⟩ := h
    have hend := ih hrest
    rw [endOf_cons]
    linarith

/-- No interval ends behind the last one. -/
theorem Follow.le_endOf {start : Rat} (h : Follow start intervals) {e : Rat × Rat}
    (he : e ∈ intervals) :
  e.2 ≤ endOf start intervals
  := by
  induction intervals generalizing start with
  | nil => cases he
  | cons e' rest ih =>
    obtain ⟨-, -, hrest⟩ := h
    rw [endOf_cons]
    obtain rfl | he := List.mem_cons.mp he
    · apply hrest.start_le_endOf
    · apply ih hrest he

/-- Of two intervals the one in front ends before the other begins. -/
theorem Follow.pairwise {start : Rat} (h : Follow start intervals) :
  intervals.Pairwise fun e e' => e.2 ≤ e'.1
  := by
  induction intervals generalizing start with
  | nil => apply List.Pairwise.nil
  | cons e rest ih =>
    obtain ⟨-, -, hrest⟩ := h
    apply List.Pairwise.cons _ (ih hrest)
    intro e' he'
    apply hrest.start_le he'

end Follow

/-- Where the items of a list follow one another, two items with a point in common are the same. -/
theorem eq_of_meet {β : Type} {items : List β} {low high : β → Rat}
    (h : items.Pairwise fun a b => high a ≤ low b) {a b : β} (ha : a ∈ items) (hb : b ∈ items)
    {x : Rat} (hx : low a ≤ x ∧ x < high a) (hx' : low b ≤ x ∧ x < high b) :
  a = b
  := by
  have hsymm : Std.Symm fun a b => high a ≤ low b ∨ high b ≤ low a := ⟨fun _ _ => Or.symm⟩
  have hpairwise : items.Pairwise fun a b => high a ≤ low b ∨ high b ≤ low a :=
    h.imp fun hle => .inl hle
  by_contra hne
  obtain hle | hle := hpairwise.forall ha hb hne
  · linarith [hx.2, hx'.1]
  · linarith [hx'.2, hx.1]

end Axis

end DataGrid
