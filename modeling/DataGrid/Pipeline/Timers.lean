/-!
# Timers

Work that is to be done later waits as timers.  Each has a number of its own, a time at which it is
due, and who is to do the work.
-/

namespace DataGrid

/-- The number of a timer. -/
abbrev TimerToken := Nat

/-- Who does the work of a timer. -/
inductive TimerTarget where
  /-- The pipeline, which is to be put together again. -/
  | reattach
  /-- The feature at an index. -/
  | feature (index : Nat)
deriving DecidableEq

/-- A timer. -/
structure Timer where
  due : Float
  target : TimerTarget
  token : TimerToken

/-- The timers that wait, in the order in which they were set. -/
structure Timers where
  pending : List Timer
  /-- The number of the next timer. -/
  next : TimerToken

/-- A place for every double on one line: from the negative to the positive ones, minus zero before
zero, and what is no number at the ends. -/
def timeRank (x : Float) : Int :=
  let bits := x.toBits.toNat
  if bits < UInt64.size / 2 then bits else -1 - (bits - UInt64.size / 2 : Nat)

namespace Timers

/-- No timer waits. -/
def none : Timers := ⟨[], 0⟩

/-- Set a timer; gives its number. -/
def schedule (ts : Timers) (target : TimerTarget) (due : Float) : TimerToken × Timers :=
  (ts.next, ⟨ts.pending ++ [⟨due, target, ts.next⟩], ts.next + 1⟩)

/-- The timers that are due, the earliest first, and the timers that are left. -/
def takeDue (ts : Timers) (now : Float) : List Timer × Timers :=
  ((ts.pending.filter fun t => t.due ≤ now).mergeSort fun s t => timeRank s.due ≤ timeRank t.due,
    { ts with pending := ts.pending.filter fun t => !(t.due ≤ now) })

/-- The earlier of two times. -/
def earlier (s t : Float) : Float := if timeRank t < timeRank s then t else s

/-- When the next timer is due. -/
def nextDue? (ts : Timers) : Option Float :=
  match ts.pending with
  | [] => .none
  | t :: rest => some (rest.foldl (fun due s => earlier due s.due) t.due)

end Timers

end DataGrid
