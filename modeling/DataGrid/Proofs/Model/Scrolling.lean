import DataGrid.Proofs.Model.Coherence

/-!
# Room for scrolling

However often a grid is scrolled one way, it comes to its limit.  Each step that leads anywhere
takes away from the room that there is that way (`Model.room_lt_of_scrollBy?`), and there is never
more room than the limits allow.
-/

namespace DataGrid

namespace Viewport

/-- How far a scroll position is from where steps of `delta` lead in the end. -/
def roomAlong (delta : Int) (index limit : Nat) : Nat :=
  if delta < 0 then index else if 0 < delta then limit - index else 0

theorem roomAlong_le {index limit : Nat} (h : index ≤ limit) (delta : Int) :
  roomAlong delta index limit ≤ limit
  := by
  rw [roomAlong]
  split
  · apply h
  · split
    · apply Nat.sub_le
    · apply Nat.zero_le

/-- A step does not make room, and it takes room away if it leads anywhere. -/
theorem roomAlong_step {index limit : Nat} (h : index ≤ limit) (delta : Int) :
  min (stepBy index delta) limit = index
    ∨ roomAlong delta (min (stepBy index delta) limit) limit < roomAlong delta index limit
  := by
  rw [roomAlong, roomAlong, stepBy]
  split
  · omega
  · split
    · omega
    · omega

theorem scrolledApart_self {α : Type} (v : Viewport α) :
  v.scrolledApart v = false
  := by
  rw [scrolledApart, decide_eq_false (not_not_intro rfl), decide_eq_false (not_not_intro rfl)]
  rfl

end Viewport

namespace Model

variable {α σ : Type} [Pixel α] [DataSource σ] {m m' : Model α σ} {columns rows : Int}

/-- How far the grid can be scrolled by steps one way. -/
def room (m : Model α σ) (columns rows : Int) : Nat :=
  Viewport.roomAlong columns m.viewport.scrollLeft m.limits.left
    + Viewport.roomAlong rows m.viewport.scrollTop m.limits.top

theorem room_congr (hframe : m'.toFrame = m.toFrame) (hdata : m'.data = m.data) :
  m'.room columns rows = m.room columns rows
  := by
  rw [room, room, limits, limits, rowCount, rowCount, hframe, hdata]

theorem room_le (hm : m.IsCoherent) (columns rows : Int) :
  m.room columns rows ≤ m.limits.left + m.limits.top
  := Nat.add_le_add (Viewport.roomAlong_le hm.left_le columns) (Viewport.roomAlong_le hm.top_le rows)

/-- Steps that leave the rows alone do not need more room than there is for columns. -/
theorem room_columns_le (hm : m.IsCoherent) (columns : Int) :
  m.room columns 0 ≤ m.limits.left
  := Viewport.roomAlong_le hm.left_le columns

/-- What a step leads to. -/
theorem viewport_scrollBy? (h : m.scrollBy? columns rows = some m') :
  m'.limits = m.limits
    ∧ m'.viewport.scrollLeft = min (Viewport.stepBy m.viewport.scrollLeft columns) m.limits.left
    ∧ m'.viewport.scrollTop = min (Viewport.stepBy m.viewport.scrollTop rows) m.limits.top
    ∧ m.viewport.scrolledApart m'.viewport = true
  := by
  rw [scrollBy?] at h
  split at h
  case isTrue hapart =>
    obtain rfl := Option.some.inj h
    -- the limits do not depend on the position, so nothing is left for the second clamp
    have hleft : min (min (Viewport.stepBy m.viewport.scrollLeft columns) m.limits.left)
        m.limits.left = min (Viewport.stepBy m.viewport.scrollLeft columns) m.limits.left := by
      omega
    have htop : min (min (Viewport.stepBy m.viewport.scrollTop rows) m.limits.top) m.limits.top
        = min (Viewport.stepBy m.viewport.scrollTop rows) m.limits.top := by
      omega
    refine ⟨rfl, hleft, htop, ?_⟩
    have hviewport : (m.viewport.scrollBy columns rows m.limits).clamp m.limits
        = m.viewport.scrollBy columns rows m.limits := by
      rw [Viewport.scrollBy, Viewport.scrollTo, Viewport.clamp, Viewport.clamp]
      dsimp only
      rw [hleft, htop]
    change m.viewport.scrolledApart ((m.viewport.scrollBy columns rows m.limits).clamp m.limits)
      = true
    rw [hviewport]
    apply hapart
  case isFalse => cases h

/-- A step that leads nowhere ends where it begins. -/
theorem viewport_of_scrollBy?_eq_none (h : m.scrollBy? columns rows = none) :
  min (Viewport.stepBy m.viewport.scrollLeft columns) m.limits.left = m.viewport.scrollLeft
    ∧ min (Viewport.stepBy m.viewport.scrollTop rows) m.limits.top = m.viewport.scrollTop
  := by
  rw [scrollBy?] at h
  split at h
  case isTrue => cases h
  case isFalse hapart =>
    rw [Viewport.scrolledApart, Bool.or_eq_true, decide_eq_true_eq, decide_eq_true_eq, not_or,
      Decidable.not_not, Decidable.not_not] at hapart
    exact ⟨hapart.1.symm, hapart.2.symm⟩

/-- Where one can scroll to leads there. -/
theorem viewport_scrollTo {left top : Nat} (hleft : left ≤ m.limits.left)
    (htop : top ≤ m.limits.top) :
  (m.scrollTo left top).viewport = { m.viewport with scrollLeft := left, scrollTop := top }
  := by
  -- the limits do not depend on the position, so neither clamp takes anything away
  change ({ m.viewport with
    scrollLeft := min (min left m.limits.left) m.limits.left
    scrollTop := min (min top m.limits.top) m.limits.top } : Viewport α) = _
  rw [Nat.min_eq_left hleft, Nat.min_eq_left htop, Nat.min_eq_left hleft, Nat.min_eq_left htop]

/-- Each step takes away from the room that there is. -/
theorem room_lt_of_scrollBy? (hm : m.IsCoherent) (h : m.scrollBy? columns rows = some m') :
  m'.room columns rows < m.room columns rows
  := by
  obtain ⟨hlimits, hleft, htop, hapart⟩ := viewport_scrollBy? h
  have hinside : m.viewport.scrollLeft ≤ m.limits.left ∧ m.viewport.scrollTop ≤ m.limits.top :=
    ⟨hm.left_le, hm.top_le⟩
  have hcolumns := Viewport.roomAlong_step hinside.1 columns
  have hrows := Viewport.roomAlong_step hinside.2 rows
  rw [← hleft] at hcolumns
  rw [← htop] at hrows
  rw [Viewport.scrolledApart, Bool.or_eq_true, decide_eq_true_eq, decide_eq_true_eq] at hapart
  rw [room, room, hlimits]
  obtain hcolumns | hcolumns := hcolumns
  · obtain hrows | hrows := hrows
    · omega
    · rw [hcolumns]
      omega
  · obtain hrows | hrows := hrows
    · rw [hrows]
      omega
    · omega

end Model

end DataGrid
