/-!
# Moving a run of a list

`moveRun? xs start count target` takes the run of `count` items from `start` out of a list and
puts it before the item at `target`.  A target inside the run leaves the run where it is.
-/

namespace DataGrid

/-- Where a run goes in what is left of the list when it has been taken out. -/
def landing (start count target : Nat) : Nat :=
  if start + count ≤ target then target - count
  else if start < target then start
  else target

/-- Put items into a list before index `i`. -/
def insertAt {β : Type} (i : Nat) (items xs : List β) : List β := xs.take i ++ items ++ xs.drop i

/-- The list after a move; `none` if the run is empty, or the run or the target is outside the
list. -/
def moveRun? {β : Type} (xs : List β) (start count target : Nat) : Option (List β) :=
  if 0 < count ∧ start + count ≤ xs.length ∧ target ≤ xs.length then
    let run := (xs.drop start).take count
    let left := xs.take start ++ xs.drop (start + count)
    some (insertAt (landing start count target) run left)
  else none

/-- Where each of `length` items is after a move: entry `i` is the new index of item `i`. -/
def movedPositions? (length start count target : Nat) : Option (List Nat) :=
  (moveRun? (List.range length) start count target).map fun order =>
    (List.range length).map fun i => order.idxOf i

end DataGrid
