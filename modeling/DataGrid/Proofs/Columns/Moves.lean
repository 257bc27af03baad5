import Mathlib
import DataGrid.Proofs.Columns.Change

/-!
# What a move does, and how it is undone

A run that is moved before an item outside it is taken out and put back immediately before that item
(`runBefore`), and any other move changes nothing.  Moving the run again, from where it has landed to
where it came from, brings the old list back (`Columns.movesRun`).
-/

namespace DataGrid

section Run

variable {β : Type} {xs ys zs : List β} {start count target place : Nat}

/-- The list with the run of `count` items from `start` taken out and put back immediately before the
item at `target`, which is not one of the run; at the end if there is no such item. -/
def runBefore (xs : List β) (start count target : Nat) : List β :=
  if target < start then
    xs.take target ++ (xs.drop start).take count ++ (xs.drop target).take (start - target)
      ++ xs.drop (start + count)
  else
    xs.take start ++ (xs.drop (start + count)).take (target - (start + count))
      ++ (xs.drop start).take count ++ xs.drop target

theorem moveRun?_eq_runBefore (hcount : 0 < count) (hrun : start + count ≤ xs.length)
    (htarget : target ≤ xs.length) (houtside : target < start ∨ start + count < target) :
  moveRun? xs start count target = some (runBefore xs start count target)
  := by
  have hstart : (xs.take start).length = start := List.length_take_of_le (by omega)
  have hmoved : moveRun? xs start count target
      = some (insertAt (landing start count target) ((xs.drop start).take count)
          (xs.take start ++ xs.drop (start + count))) := if_pos ⟨hcount, hrun, htarget⟩
  rw [hmoved, landing_eq_of_outside (by omega), runBefore, insertAt]
  obtain hbefore | hbehind := houtside
  · have htake : (xs.take start ++ xs.drop (start + count)).take target = xs.take target := by
      rw [List.take_append_of_le_length (by omega), List.take_take, Nat.min_eq_left (by omega)]
    have hdrop : (xs.take start ++ xs.drop (start + count)).drop target
        = (xs.drop target).take (start - target) ++ xs.drop (start + count) := by
      rw [List.drop_append_of_le_length (by omega), List.drop_take]
    rw [if_neg (by omega), if_pos hbefore, htake, hdrop, List.append_assoc,
      List.append_assoc, List.append_assoc]
  · have htake : (xs.take start ++ xs.drop (start + count)).take (target - count)
        = xs.take start ++ (xs.drop (start + count)).take (target - (start + count)) := by
      rw [List.take_append, List.take_take, hstart, Nat.min_eq_right (by omega)]
      congr 2
      omega
    have hdrop : (xs.take start ++ xs.drop (start + count)).drop (target - count)
        = xs.drop target := by
      rw [List.drop_append, List.drop_of_length_le (by omega), List.nil_append, List.drop_drop,
        hstart]
      congr 1
      omega
    rw [if_pos (by omega), if_neg (by omega), htake, hdrop]

namespace RunMoved

/-- A run that has been moved comes back when it is moved the other way. -/
theorem symm (h : RunMoved xs ys start count place) :
  RunMoved ys xs place count start
  := ⟨h.run_eq.symm, h.others_eq.symm⟩

/-- Where the run stands decides the list. -/
theorem unique (h : RunMoved xs ys start count place) (h' : RunMoved xs zs start count place) :
  ys = zs
  := by
  have hsame : RunMoved zs ys place count place :=
    ⟨h.run_eq.trans h'.run_eq.symm, h.others_eq.trans h'.others_eq.symm⟩
  exact hsame.eq_of_same_place

end RunMoved

end Run

namespace Columns

variable {α : Type} {c c' : Columns α} {start count target : Nat}

/-- The run is not empty, the run and the target are in the list, and the target is neither in the
run nor at one of its ends. -/
structure CanMove (c : Columns α) (start count target : Nat) : Prop where
  count_pos : 0 < count
  run_le : start + count ≤ c.shownCount
  target_le : target ≤ c.shownCount
  target_outside : target < start ∨ start + count < target

theorem canMove_of_move? (h : c.move? start count target = some c') :
  c.CanMove start count target
  := by
  have hmoved := hasMoved_of_move? h
  refine ⟨hmoved.count_pos, hmoved.run_le, hmoved.target_le, ?_⟩
  by_contra hinside
  have hcount := hmoved.count_pos
  have hplace : landing start count target = start := by
    rw [landing]
    split
    · have hends := hmoved.target_outside
      omega
    · split
      · rfl
      · have hends := hmoved.target_outside
        omega
  have hrun := hmoved.runMoved
  rw [hplace] at hrun
  apply hmoved.shown_ne hrun.eq_of_same_place

/-- A move that can be made is made exactly if it leads to another list. -/
theorem CanMove.move?_eq (h : c.CanMove start count target) :
  c.move? start count target = c.reorder? (runBefore c.shown start count target)
  := by
  rw [move?, moveRun?_eq_runBefore h.count_pos h.run_le h.target_le h.target_outside,
    Option.bind_some]

/-- What has been moved can be moved back, from where it has landed to where it came from. -/
theorem exists_move?_back (h : c.move? start count target = some c') {landed back : Nat}
    (hlanded : landed = if start < target then target - count else target)
    (hback : back = if start < landed then start else start + count) :
  ∃ c'', c'.move? landed count back = some c'' ∧ c''.shown = c.shown
  := by
  have hmoved := hasMoved_of_move? h
  obtain ⟨hcount, hrun, htarget, houtside⟩ := canMove_of_move? h
  have hlength : c'.shownCount = c.shownCount := hmoved.runMoved.perm.length_eq
  have hlanding : landing start count target = landed := by
    rw [hlanded]
    apply landing_eq_of_outside
    omega
  have hcan : c'.CanMove landed count back := by
    rw [hlanded] at hback
    rw [hback, hlanded]
    constructor
    case count_pos => apply hcount
    case run_le => split <;> omega
    case target_le => split_ifs <;> omega
    case target_outside => split_ifs <;> omega
  have hreturn : landing landed count back = start := by
    rw [landing_eq_of_outside (by have := hcan.target_outside; omega), hback, hlanded]
    split_ifs <;> omega
  -- the run stands where it stood, so the list is the old one
  obtain ⟨zs, hzs⟩ : ∃ zs, moveRun? c'.shown landed count back = some zs :=
    ⟨_, moveRun?_eq_runBefore hcan.count_pos hcan.run_le hcan.target_le hcan.target_outside⟩
  have hreturned := runMoved_of_moveRun? hzs
  rw [hreturn] at hreturned
  have hold := hmoved.runMoved.symm
  rw [hlanding] at hold
  obtain rfl : zs = c.shown := hreturned.unique hold
  refine ⟨{ c' with
    shown := c.shown
    notices := c'.notices ++ [.columnsReordered c'.shown c.shown] }, ?_, rfl⟩
  rw [move?, hzs, Option.bind_some, reorder?, if_neg hmoved.shown_ne.symm]

/-- What a move does.  The columns after it are `moved`. -/
structure MovesRun (c : Columns α) (start count target : Nat) (moved : Columns α) : Prop where
  /-- The move says that it was made exactly if the list is another one. -/
  isSome_iff : (c.move? start count target).isSome = true ↔ moved.shown ≠ c.shown
  shown_eq : c.CanMove start count target →
    moved.shown = runBefore c.shown start count target
  shown_eq_self : ¬ c.CanMove start count target → moved.shown = c.shown
  /-- Nothing else changes, and a change of the list is noted once. -/
  rest : moved = { c with
    shown := moved.shown
    notices := c.notices
      ++ if moved.shown = c.shown then [] else [.columnsReordered c.shown moved.shown] }
  /-- A move that was made is undone by the one from where the run has landed to where it came
  from. -/
  restored : (c.move? start count target).isSome = true →
    let landed := if start < target then target - count else target
    let back := if start < landed then start else start + count
    ∃ c'', moved.move? landed count back = some c'' ∧ c''.shown = c.shown

/-- Whatever is to be moved, a move puts the run before the target or changes nothing. -/
theorem movesRun (c : Columns α) (start count target : Nat) :
  c.MovesRun start count target ((c.move? start count target).getD c)
  := by
  cases h : c.move? start count target with
  | none =>
    rw [Option.getD_none]
    constructor
    case isSome_iff => simp [h]
    case shown_eq =>
      intro hcan
      rw [hcan.move?_eq, reorder?] at h
      split at h
      case isTrue hsame => apply hsame.symm
      case isFalse => cases h
    case shown_eq_self =>
      intro _
      rfl
    case rest => rw [if_pos rfl, List.append_nil]
    case restored =>
      intro hsome
      rw [h] at hsome
      cases hsome
  | some c' =>
    have hcan := canMove_of_move? h
    have hreorder := hcan.move?_eq.symm.trans h
    rw [reorder?] at hreorder
    split at hreorder
    case isTrue => cases hreorder
    case isFalse hother =>
      have hmoved := Option.some.inj hreorder
      rw [Option.getD_some]
      constructor
      case isSome_iff => simp [h, ← hmoved, hother]
      case shown_eq =>
        intro _
        rw [← hmoved]
      case shown_eq_self =>
        intro hcannot
        cases hcannot hcan
      case rest =>
        rw [← hmoved, if_neg hother]
      case restored =>
        intro _ landed back
        apply exists_move?_back h rfl rfl

/-- In a list with repetitions a move may lead to the same list, and then it is not made.  Two columns
that have been moved to the end come back. -/
theorem movesRun_repeated :
  let c : Columns Rat :=
    (ofSchema (ColumnSchema.ofNames ["A", "B", "C"]) Config.default).showColumns .all [0] (.before 0)
      true
  let moved := (c.move? 1 2 4).getD c
  c.shown = [.data 0, .data 0, .data 1, .data 2]
    ∧ (c.move? 0 1 2).isSome = false
    ∧ (c.move? 1 2 4).isSome = true
    ∧ moved.shown = [.data 0, .data 2, .data 0, .data 1]
    ∧ ∃ c'', moved.move? 2 2 1 = some c'' ∧ c''.shown = c.shown
  := by
  intro c moved
  have hshown : c.shown = [.data 0, .data 0, .data 1, .data 2] := by
    simp only [c]
    cbv
  have hfirst : c.CanMove 0 1 2 := by constructor <;> simp [shownCount, hshown]
  have hlast : c.CanMove 1 2 4 := by constructor <;> simp [shownCount, hshown]
  have hsame : ((c.move? 0 1 2).getD c).shown = c.shown := by
    rw [(movesRun c 0 1 2).shown_eq hfirst, hshown]
    rfl
  have hmoved : moved.shown = [.data 0, .data 2, .data 0, .data 1] := by
    rw [(movesRun c 1 2 4).shown_eq hlast, hshown]
    rfl
  have hmade : (c.move? 1 2 4).isSome = true := by
    rw [(movesRun c 1 2 4).isSome_iff, hshown]
    change moved.shown ≠ _
    rw [hmoved]
    decide
  refine ⟨hshown, ?_, hmade, hmoved, (movesRun c 1 2 4).restored hmade⟩
  rw [← Bool.not_eq_true, (movesRun c 0 1 2).isSome_iff, not_not]
  apply hsame

end Columns

end DataGrid
