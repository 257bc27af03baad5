import DataGrid.Feature.BuiltIn
import DataGrid.Proofs.Columns.Change
import DataGrid.Proofs.Frame.Edges
import DataGrid.Proofs.Selection

/-!
# Columns that are held

While columns are held, the grid may scroll and another place for them may be picked, but the order
of the columns and the settings stay as they are (`ColumnMoving.Follows`).  A place that is picked
lies behind the fixed columns and those that are scrolled out.  When the columns are let go of, they
are moved there in one piece and selected.
-/

namespace DataGrid

variable {α σ : Type} [Pixel α] [DataSource σ]

namespace ColumnMoving

/-- What may have become of a model and of columns that are held in it: a place for them, if it is
another one, has been picked in the model as it is now. -/
structure Follows (m : Model α σ) (d : ColumnDrag α) (m' : Model α σ) (d' : ColumnDrag α) :
    Prop where
  start_eq : d'.start = d.start
  count_eq : d'.count = d.count
  shown_eq : m'.columns.shown = m.columns.shown
  config_eq : m'.config = m.config
  target_eq : d'.target = none ∨ d'.target = d.target
    ∨ ∃ target, d'.target = some target ∧ target? m' d'.pointer.x = some target

omit [DataSource σ] in
theorem target?_congr {m m' : Model α σ} (h : m'.toFrame.silent = m.toFrame.silent) (x : α) :
  target? m' x = target? m x
  := congrArg
    (fun f => (f.nearestColumn? x).map fun i => max i (f.fixedColumns + f.viewport.scrollLeft)) h

omit [DataSource σ] in
theorem dropBar_congr {m m' : Model α σ} (h : m'.toFrame.silent = m.toFrame.silent) (target : Nat) :
  dropBar m' target = dropBar m target
  := congrArg
    (fun f => (⟨(f.start? (.shown target)).getD f.layout.rightEdge, Pixel.zero, f.layout.bottomEdge,
      f.config.insertLineWidth⟩ : Bar α)) h

omit [DataSource σ] in
/-- A place lies behind the fixed columns and those that are scrolled out, and not beyond the last
column. -/
theorem bounds_of_target? {m : Model α σ} (h : m.toFrame.HasPlacedColumns) {x : α}
    {target : Nat} (ht : target? m x = some target) :
  m.fixedColumns + m.viewport.scrollLeft ≤ target ∧ target ≤ m.columns.shownCount
  := by
  obtain ⟨i, hi, rfl⟩ := Option.map_eq_some_iff.mp ht
  constructor
  · apply Nat.le_max_right
  · apply Nat.max_le.mpr ⟨h.nearestColumn?_le hi, h.first_le⟩

namespace Follows

variable {m m₁ m' : Model α σ} {d d₁ d' : ColumnDrag α}

omit [DataSource σ] in
theorem refl (m : Model α σ) (d : ColumnDrag α) :
  Follows m d m d
  := ⟨rfl, rfl, rfl, rfl, Or.inr (Or.inl rfl)⟩

omit [DataSource σ] in
/-- What the pointer, the floater and the drop bar are does not count. -/
theorem before (h : Follows m₁ d₁ m' d') (hstart : d₁.start = d.start)
    (hcount : d₁.count = d.count) (htarget : d₁.target = d.target)
    (hshown : m₁.columns.shown = m.columns.shown) (hconfig : m₁.config = m.config) :
  Follows m d m' d'
  := by
  constructor
  · apply h.start_eq.trans hstart
  · apply h.count_eq.trans hcount
  · apply h.shown_eq.trans hshown
  · apply h.config_eq.trans hconfig
  · rw [← htarget]
    apply h.target_eq

omit [DataSource σ] in
/-- What does not last of a model does not count. -/
theorem settled (h : Follows m d m₁ d') (hframe : m'.toFrame.silent = m₁.toFrame.silent) :
  Follows m d m' d'
  := by
  constructor
  · apply h.start_eq
  · apply h.count_eq
  · apply (congrArg (fun f => f.columns.shown) hframe).trans h.shown_eq
  · apply (congrArg (fun f => f.config) hframe).trans h.config_eq
  · rw [target?_congr hframe]
    apply h.target_eq

omit [DataSource σ] in
theorem withAutoscroll (h : Follows m d m' d') (autoscroll : Option Autoscroll) :
  Follows m d m' { d' with autoscroll := autoscroll }
  := ⟨h.start_eq, h.count_eq, h.shown_eq, h.config_eq, h.target_eq⟩

end Follows

/-! ### Steps of a gesture -/

omit [DataSource σ] in
theorem follows_aim (m : Model α σ) (d : ColumnDrag α) :
  Follows m d (aim m d).1 (aim m d).2
  := by
  rw [aim]
  split
  case h_1 target htarget =>
    constructor
    · rfl
    · rfl
    · rfl
    · rfl
    · apply Or.inr (Or.inr ⟨target, rfl, htarget⟩)
  case h_2 => apply Follows.refl

theorem follows_scrollBy? {m m' : Model α σ} {columns rows : Int}
    (h : m.scrollBy? columns rows = some m') (d : ColumnDrag α) :
  Follows m d m' d
  := by
  rw [Model.scrollBy?] at h
  split at h
  case isTrue =>
    obtain rfl := Option.some.inj h
    exact ⟨rfl, rfl, rfl, rfl, Or.inr (Or.inl rfl)⟩
  case isFalse => cases h

theorem follows_scrollStep (d : ColumnDrag α) (direction : Int) (attempt : Nat)
    (t : GridTurn α σ) :
  Follows t.model d (scrollStep d direction attempt t).2.model (scrollStep d direction attempt t).1
  := by
  rw [scrollStep]
  split
  case h_1 => apply (Follows.refl t.model d).withAutoscroll
  case h_2 m hscroll =>
    have hm := follows_scrollBy? hscroll d
    have haim := follows_aim m d
    apply (haim.before rfl rfl rfl hm.shown_eq hm.config_eq).withAutoscroll

theorem follows_follow (d : ColumnDrag α) (e : PointerEvent α) (t : GridTurn α σ) :
  Follows t.model d (follow d e t).2.model (follow d e t).1
  := by
  rw [follow]
  split
  case h_1 direction _ =>
    split
    · exact ⟨rfl, rfl, rfl, rfl, Or.inr (Or.inl rfl)⟩
    · apply Follows.before (follows_scrollStep _ direction 0 _)
      all_goals rfl
  case h_2 =>
    dsimp only
    split
    · exact ⟨rfl, rfl, rfl, rfl, Or.inl rfl⟩
    · apply Follows.before (follows_aim _ _)
      all_goals rfl

/-- What a drag or a timer may make of a model and of columns that are held in it. -/
inductive Moves (m : Model α σ) (s : ColumnMoving α) : Model α σ → ColumnMoving α → Prop where
  | rest : Moves m s m s
  | follow {d : ColumnDrag α} (held : s.drag? = some d) (e : PointerEvent α) {t : GridTurn α σ}
    (model_eq : t.model = m) : Moves m s (follow d e t).2.model (.dragging (follow d e t).1)
  | scroll {d : ColumnDrag α} {a : Autoscroll} (dragging : s = .dragging d)
    (waiting : d.autoscroll = some a) {t : GridTurn α σ} (model_eq : t.model = m) :
    Moves m s (scrollStep d a.direction (a.attempt + 1) t).2.model
      (.dragging (scrollStep d a.direction (a.attempt + 1) t).1)

/-- Columns that are held go on being held. -/
theorem Moves.follows {m m' : Model α σ} {s s' : ColumnMoving α} (h : Moves m s m' s')
    {d : ColumnDrag α} (hd : s.drag? = some d) :
  ∃ d', s'.drag? = some d' ∧ Follows m d m' d'
  := by
  cases h with
  | rest => exact ⟨d, hd, Follows.refl m d⟩
  | follow held e model_eq =>
    obtain rfl := Option.some.inj (hd.symm.trans held)
    rw [← model_eq]
    exact ⟨_, rfl, follows_follow d e _⟩
  | scroll dragging waiting model_eq =>
    rw [dragging] at hd
    obtain rfl := Option.some.inj hd
    rw [← model_eq]
    exact ⟨_, rfl, follows_scrollStep _ _ _ _⟩

/-! ### What a step asks for -/

/-- The timer of the next step of scrolling has a number of its own. -/
theorem timer_eq_of_scrollStep {d : ColumnDrag α} {direction : Int} {attempt : Nat}
    {t : GridTurn α σ} {a : Autoscroll} (h : (scrollStep d direction attempt t).1.autoscroll = some a) :
  a.timer = t.timers.next
  := by
  rw [scrollStep] at h
  split at h
  · cases h
  · obtain rfl := Option.some.inj h
    rfl

theorem request_scrollStep (d : ColumnDrag α) (direction : Int) (attempt : Nat)
    (t : GridTurn α σ) :
  (scrollStep d direction attempt t).2.request = t.request
  := by
  rw [scrollStep]
  split
  · rfl
  · rfl

theorem request_follow (d : ColumnDrag α) (e : PointerEvent α) (t : GridTurn α σ) :
  (follow d e t).2.request = t.request
  := by
  rw [follow]
  split
  · split
    · rfl
    · apply request_scrollStep
  · dsimp only
    split
    · rfl
    · rfl

/-! ### Taking hold -/

omit [Pixel α] [DataSource σ] in
/-- No fixed column is taken hold of with one that is not. -/
theorem fixedColumns_le_runFor {m : Model α σ} {column : Nat} (h : m.fixedColumns ≤ column) :
  m.fixedColumns ≤ (runFor m column).1
  := by
  rw [runFor]
  split
  case h_1 first last _ _ =>
    split
    case isTrue hrun =>
      simp only [Bool.and_eq_true, decide_eq_true_eq] at hrun
      apply hrun.1.1.1.2
    case isFalse => apply h
  case h_2 => apply h

omit [Pixel α] [DataSource σ] in
theorem runFor_pos (m : Model α σ) (column : Nat) :
  0 < (runFor m column).2
  := by
  rw [runFor]
  split
  case h_1 first last _ _ =>
    split
    case isTrue hrun =>
      simp only [Bool.and_eq_true, decide_eq_true_eq] at hrun
      apply Nat.zero_lt_of_lt hrun.1.1.1.1
    case isFalse => apply Nat.one_pos
  case h_2 => apply Nat.one_pos

end ColumnMoving

/-! ### Letting go -/

theorem Model.move?_of_moveColumns? {m m' : Model α σ} {start count target : Nat}
    (h : m.moveColumns? start count target = some m') :
  m.columns.move? start count target = some m'.columns
  := by
  obtain ⟨columns, hmove, h⟩ := Option.map_eq_some_iff.mp h
  have hcolumns : m'.columns = columns := by
    rw [← h]
    change (Model.selectIfNew _ _).toFrame.columns = columns
    rw [Model.toFrame_selectIfNew]
  rw [hcolumns, hmove]

theorem Model.hasMoved_of_moveColumns? {m m' : Model α σ} {start count target : Nat}
    (h : m.moveColumns? start count target = some m') :
  m.columns.HasMoved m'.columns start count target
  := Columns.hasMoved_of_move? (move?_of_moveColumns? h)

namespace ColumnMoving

/-- The columns that are let go of stay where they are, or they are moved to the place that was
picked for them and are the selected columns there. -/
theorem drop_cases (d : ColumnDrag α) (m : Model α σ) :
  drop d m = m
    ∨ ∃ target, d.target = some target
      ∧ m.columns.HasMoved (drop d m).columns d.start d.count target
      ∧ (drop d m).selection.selectedColumns
          = List.range' (landing d.start d.count target) d.count
  := by
  rw [drop]
  split
  case h_1 => apply Or.inl rfl
  case h_2 target htarget =>
    split
    case h_1 => apply Or.inl rfl
    case h_2 m' hmove =>
      have hmoved := Model.hasMoved_of_moveColumns? hmove
      have hpos := hmoved.count_pos
      refine Or.inr ⟨target, htarget, ?_, ?_⟩
      · rw [Model.toFrame_selectIfNew]
        apply hmoved
      · rw [Model.selection_selectIfNew, Selection.selectedColumns_selectColumns,
          ← landing_eq_of_outside hmoved.target_outside, Range.indexes]
        congr 1
        · omega
        · omega

/-- What becomes of a model in which columns are held when they are let go of: they are dropped if
they have been dragged. -/
def letGo (s : ColumnMoving α) (m : Model α σ) : Model α σ :=
  match s with
  | .idle => m
  | .armed _ => clearOverlays m
  | .dragging d => drop d (clearOverlays m)

theorem letGo_cases {s : ColumnMoving α} {d : ColumnDrag α} (hd : s.drag? = some d)
    (m : Model α σ) :
  letGo s m = clearOverlays m ∨ letGo s m = drop d (clearOverlays m)
  := by
  cases s with
  | idle => cases hd
  | armed _ => exact .inl rfl
  | dragging _ =>
    obtain rfl := Option.some.inj hd
    exact .inr rfl

end ColumnMoving

/-! ### The feature that holds columns -/

namespace BuiltIn

open ColumnMoving

variable {s : ColumnMoving α} {d : ColumnDrag α}

/-- A drag makes the columns follow the pointer, and nothing else hears of it. -/
theorem handle_drag_of_held (hd : s.drag? = some d) (e : PointerEvent α) (t : GridTurn α σ) :
  (BuiltIn.columnMoving s).handle (.pointer .drag e) t
    = ⟨.ok .stop, .columnMoving (.dragging (follow d e t).1), (follow d e t).2⟩
  := by
  simp only [BuiltIn.handle, ColumnMoving.handle, hd]
  rfl

/-- A release lets go of the columns, and nothing else hears of it. -/
theorem handle_up_of_held (hd : s.drag? = some d) (e : PointerEvent α) (t : GridTurn α σ) :
  ((BuiltIn.columnMoving s).handle (.pointer .up e) t).result = .ok .stop
    ∧ ((BuiltIn.columnMoving s).handle (.pointer .up e) t).turn.model = letGo s t.model
  := by
  cases s with
  | idle => cases hd
  | armed _ => exact ⟨rfl, rfl⟩
  | dragging _ => exact ⟨rfl, rfl⟩

/-- A timer makes a step of scrolling if that is what it was set for. -/
theorem fire_moving_cases (s : ColumnMoving α) (timer : TimerToken) (t : GridTurn α σ) :
  (BuiltIn.columnMoving s).fire timer t = ⟨.ok (), .columnMoving s, t⟩
    ∨ ∃ d a, s = .dragging d ∧ d.autoscroll = some a ∧ a.timer = timer
      ∧ (BuiltIn.columnMoving s).fire timer t
        = ⟨.ok (), .columnMoving (.dragging (scrollStep d a.direction (a.attempt + 1) t).1),
            (scrollStep d a.direction (a.attempt + 1) t).2⟩
  := by
  rw [BuiltIn.fire]
  cases s with
  | idle => apply Or.inl rfl
  | armed d => apply Or.inl rfl
  | dragging d =>
    rw [ColumnMoving.fire]
    cases ha : d.autoscroll.filter (·.timer = timer) with
    | none => apply Or.inl rfl
    | some a =>
      obtain ⟨hautoscroll, htimer⟩ := Option.filter_eq_some_iff.mp ha
      exact Or.inr ⟨d, a, rfl, hautoscroll, of_decide_eq_true htimer, rfl⟩

end BuiltIn

end DataGrid
