import DataGrid.Proofs.Feature.Advance
import DataGrid.Proofs.Feature.Requests
import DataGrid.Proofs.Feature.Rest

/-!
# Scrolling by timers

A feature in whose drag the grid scrolls waits for the timer of the next step
(`BuiltIn.scrolling?`).  An input leaves it with that timer, with none, or with one that has just
been set (`BuiltIn.waits_handle`).  It does nothing with any other timer, and when the timer that it
waits for goes off, it makes one step and sets the next timer, or it stops (`BuiltIn.fires_fire`).
-/

namespace DataGrid

variable {α σ : Type}

/-- The scrolling that goes on while columns are held, with the timer of its next step. -/
def ColumnDrag.scrolling? (d : ColumnDrag α) : Option DragScroll :=
  d.autoscroll.map fun a => ⟨a.direction, 0, a.timer⟩

namespace BuiltIn

/-- The scrolling that goes on in the feature's drag, with the timer that the feature waits for. -/
def scrolling? : BuiltIn α → Option DragScroll
  | .columnMoving (.dragging d) => d.scrolling?
  | .cellSelection s => s.scroll
  | _ => none

/-- The feature waits for no timer unless it drags. -/
def ScrollsInDrag : BuiltIn α → Prop
  | .columnMoving (.armed d) => d.autoscroll = none
  | .cellSelection s => s.scroll.isSome = true → s.dragging = true
  | _ => True

theorem isDragging_of_scrolling? {f : BuiltIn α} (h : f.ScrollsInDrag) {d : DragScroll}
    (hd : f.scrolling? = some d) :
  f.isDragging = true
  := by
  cases f with
  | columnMoving s =>
    cases s with
    | dragging _ => rfl
    | _ => cases hd
  | cellSelection s =>
    apply h
    rw [Option.isSome_iff_exists]
    exact ⟨d, hd⟩
  | _ => cases hd

theorem name_of_scrolling? {f : BuiltIn α} {d : DragScroll} (hd : f.scrolling? = some d) :
  f.name = "column_moving" ∨ f.name = "cell_selection"
  := by
  cases f with
  | columnMoving _ => exact .inl rfl
  | cellSelection _ => exact .inr rfl
  | _ => cases hd

/-- At first a feature waits for no timer. -/
theorem scrolling?_of_mem_all {f : BuiltIn α} (h : f ∈ all) :
  f.scrolling? = none ∧ f.ScrollsInDrag
  := by
  simp only [all, List.mem_cons, List.not_mem_nil, or_false] at h
  obtain rfl | rfl | rfl | rfl | rfl | rfl | rfl | rfl | rfl | rfl := h
  case inr.inr.inr.inr.inr.inr.inr.inl => exact ⟨rfl, fun h => by cases h⟩
  all_goals exact ⟨rfl, trivial⟩

/-- A feature that neither moves columns nor selects cells never waits for a timer. -/
theorem scrolling?_of_name {f : BuiltIn α} (hmoving : f.name ≠ "column_moving")
    (hcells : f.name ≠ "cell_selection") :
  f.scrolling? = none ∧ f.ScrollsInDrag
  := by
  cases f with
  | columnMoving _ => cases hmoving rfl
  | cellSelection _ => cases hcells rfl
  | _ => exact ⟨rfl, trivial⟩

end BuiltIn

/-- What becomes in a turn of the timer that a feature waits for. -/
inductive Turn.Waits (t t' : GridTurn α σ) (before after : Option DragScroll) : Prop where
  | keeps (awaited : after = before ∨ after = none) (timers : t'.timers = t.timers)
  | sets (columns rows : Int) (due : Float) (awaited : after = some ⟨columns, rows, t.timers.next⟩)
    (timers : t'.timers = (t.timers.schedule (.feature t.index) due).2)

/-- A step of scrolling that a feature makes in its turn, and the timer that it sets for the next
one. -/
structure Turn.Steps [Pixel α] [DataSource σ] (t t' : GridTurn α σ) (before : DragScroll)
    (after : Option DragScroll) : Prop where
  scrolled : ∃ m, t.model.scrollBy? before.columns before.rows = some m
    ∧ t'.model.toFrame = m.toFrame ∧ t'.model.data = m.data
  awaited : after = some { before with timer := t.timers.next }
  timers : ∃ due, t'.timers = (t.timers.schedule (.feature t.index) due).2
  request : t'.request = t.request

variable [Pixel α] [DataSource σ]

theorem Turn.Steps.waits {t t' : GridTurn α σ} {before : DragScroll} {after : Option DragScroll}
    (h : t.Steps t' before after) (before' : Option DragScroll) :
  t.Waits t' before' after
  := by
  obtain ⟨due, htimers⟩ := h.timers
  exact .sets before.columns before.rows due h.awaited htimers

/-! ### Moving columns -/

namespace ColumnMoving

/-- Columns are scrolled by one step, or the scrolling ends. -/
theorem steps_scrollStep (d : ColumnDrag α) (direction : Int) (attempt : Nat) (t : GridTurn α σ)
    (timer : TimerToken) :
  (scrollStep d direction attempt t).1.scrolling? = none ∧ (scrollStep d direction attempt t).2 = t
    ∨ t.Steps (scrollStep d direction attempt t).2 ⟨direction, 0, timer⟩
        (scrollStep d direction attempt t).1.scrolling?
  := by
  rw [scrollStep]
  split
  case h_1 => exact .inl ⟨rfl, rfl⟩
  case h_2 m hm =>
    refine .inr ⟨⟨m, hm, ?_, ?_⟩, rfl, ⟨_, rfl⟩, rfl⟩
    · dsimp only [Turn.schedule]
      rw [aim]
      split
      · rfl
      · rfl
    · dsimp only [Turn.schedule]
      rw [aim]
      split
      · rfl
      · rfl

theorem waits_follow (d : ColumnDrag α) (e : PointerEvent α) (t : GridTurn α σ) :
  t.Waits (follow d e t).2 d.scrolling? (follow d e t).1.scrolling?
  := by
  unfold follow
  extract_lets _ d' t'
  split
  case h_1 direction _ =>
    split
    · exact .keeps (.inl rfl) rfl
    · obtain ⟨hnone, hturn⟩ | hsteps := steps_scrollStep d' direction 0 t' 0
      · refine .keeps (.inr hnone) ?_
        rw [hturn]
        rfl
      · obtain ⟨due, htimers⟩ := hsteps.timers
        exact .sets direction 0 due hsteps.awaited htimers
  case h_2 =>
    dsimp only
    split
    · exact .keeps (.inr rfl) rfl
    · refine .keeps (.inr ?_) rfl
      rw [aim]
      split
      · rfl
      · rfl

theorem waits_handle (s : ColumnMoving α) (h : (BuiltIn.columnMoving s).ScrollsInDrag)
    (input : Input α) (t : GridTurn α σ) :
  t.Waits (s.handle input t).turn (BuiltIn.columnMoving s).scrolling?
      (BuiltIn.columnMoving (s.handle input t).state).scrolling?
    ∧ (BuiltIn.columnMoving (s.handle input t).state).ScrollsInDrag
  := by
  unfold handle
  split
  case h_1 =>
    split
    · exact ⟨.keeps (.inl rfl) rfl, h⟩
    · exact ⟨.keeps (.inr rfl) rfl, rfl⟩
  case h_2 e =>
    split
    · exact ⟨.keeps (.inl rfl) rfl, h⟩
    · next d hd =>
      -- columns that have not been dragged are not scrolled
      have hscrolling : (BuiltIn.columnMoving s).scrolling? = d.scrolling? := by
        cases s with
        | idle => cases hd
        | armed d' =>
          obtain rfl : d' = d := Option.some.inj hd
          rw [ColumnDrag.scrolling?, show d'.autoscroll = none from h]
          rfl
        | dragging _ =>
          obtain rfl := Option.some.inj hd
          rfl
      rw [hscrolling]
      exact ⟨waits_follow d e t, trivial⟩
  case h_3 =>
    split
    · exact ⟨.keeps (.inl rfl) rfl, h⟩
    · exact ⟨.keeps (.inr rfl) rfl, trivial⟩
    · exact ⟨.keeps (.inr rfl) rfl, trivial⟩
  case h_4 =>
    split
    · exact ⟨.keeps (.inr rfl) rfl, trivial⟩
    · exact ⟨.keeps (.inl rfl) rfl, h⟩
  case h_5 => exact ⟨.keeps (.inl rfl) rfl, h⟩

end ColumnMoving

/-! ### Selecting cells -/

namespace CellSelection

omit [Pixel α] [DataSource σ] in
/-- Reaching on to a cell selects, and does nothing else that lasts. -/
theorem extendTo?_leaves (s : CellSelection α) (m : Model α σ) (cell? : Option CellPlace) :
  (s.extendTo? m cell?).1.scroll = s.scroll ∧ (s.extendTo? m cell?).1.dragging = s.dragging
    ∧ (s.extendTo? m cell?).2.toFrame = m.toFrame ∧ (s.extendTo? m cell?).2.data = m.data
  := by
  cases cell? with
  | none => exact ⟨rfl, rfl, rfl, rfl⟩
  | some cell =>
    rw [extendTo?, extendTo]
    split
    · exact ⟨rfl, rfl, rfl, rfl⟩
    · refine ⟨rfl, rfl, ?_, ?_⟩
      · dsimp only
        split
        · rfl
        · rfl
      · dsimp only
        split
        · rfl
        · rfl

/-- The grid is scrolled by one step, or the scrolling ends. -/
theorem steps_scrollStep (s : CellSelection α) (columns rows : Int) (t : GridTurn α σ)
    (timer : TimerToken) :
  ((s.scrollStep columns rows t).1.scroll = none ∧ (s.scrollStep columns rows t).2 = t
      ∨ t.Steps (s.scrollStep columns rows t).2 ⟨columns, rows, timer⟩
          (s.scrollStep columns rows t).1.scroll)
    ∧ (s.scrollStep columns rows t).1.dragging = s.dragging
  := by
  rw [scrollStep]
  split
  case h_1 => exact ⟨.inl ⟨rfl, rfl⟩, rfl⟩
  case h_2 m hm =>
    obtain ⟨-, hdragging, hframe, hdata⟩ :=
      s.extendTo?_leaves m (s.pointer.bind (nearestCell? m))
    exact ⟨.inr ⟨⟨m, hm, hframe, hdata⟩, rfl, ⟨_, rfl⟩, rfl⟩, hdragging⟩

theorem waits_dragScroll (s : CellSelection α) (p : Point α) (t : GridTurn α σ) :
  t.Waits (s.dragScroll p t).2 s.scroll (s.dragScroll p t).1.scroll
    ∧ (s.dragScroll p t).1.dragging = s.dragging
  := by
  rw [dragScroll]
  split
  case h_1 => exact ⟨.keeps (.inr rfl) rfl, rfl⟩
  case h_2 columns rows _ _ =>
    split
    · exact ⟨.keeps (.inl rfl) rfl, rfl⟩
    · obtain ⟨⟨hnone, hturn⟩ | hsteps, hdragging⟩ := s.steps_scrollStep columns rows t 0
      · refine ⟨.keeps (.inr hnone) ?_, hdragging⟩
        rw [hturn]
      · exact ⟨hsteps.waits _, hdragging⟩

omit [Pixel α] [DataSource σ] in
theorem press_leaves (s : CellSelection α) (e : PointerEvent α) (cell : CellPlace)
    (m : Model α σ) :
  (s.press e cell m).1.scroll = none
  := by
  rw [press]
  split
  · rfl
  · rfl

/-- A key leaves a drag and the scrolling in it alone, or it ends both. -/
theorem key?_leaves {s s' : CellSelection α} {e : KeyEvent} {m m' : Model α σ}
    (h : s.key? e m = some (s', m')) :
  s'.scroll = none ∨ s'.scroll = s.scroll ∧ s'.dragging = s.dragging
  := by
  rw [key?] at h
  split at h
  · split at h
    · cases h
    · obtain rfl := congrArg Prod.fst (Option.some.inj h)
      exact .inl rfl
  · split at h
    · split at h
      · rw [selectAll?] at h
        split at h
        · cases h
        · obtain rfl := congrArg Prod.fst (Option.some.inj h)
          exact .inr ⟨rfl, rfl⟩
      · cases h
    · obtain ⟨delta, -, h⟩ := Option.bind_eq_some_iff.mp h
      obtain ⟨start, -, h⟩ := Option.bind_eq_some_iff.mp h
      obtain rfl := congrArg Prod.fst (Option.some.inj h)
      rw [stepOn]
      dsimp only
      split
      · obtain ⟨hscroll, hdragging, -, -⟩ := s.extendTo?_leaves m (some _)
        exact .inr ⟨hscroll, hdragging⟩
      · exact .inr ⟨rfl, rfl⟩

theorem waits_handle (s : CellSelection α) (h : (BuiltIn.cellSelection s).ScrollsInDrag)
    (input : Input α) (t : GridTurn α σ) :
  t.Waits (s.handle input t).turn s.scroll (s.handle input t).state.scroll
    ∧ (BuiltIn.cellSelection (s.handle input t).state).ScrollsInDrag
  := by
  have hnone {s' : CellSelection α} (hs' : s'.scroll = none) :
      (BuiltIn.cellSelection s').ScrollsInDrag := by
    change s'.scroll.isSome = true → _
    rw [hs']
    rintro ⟨⟩
  unfold handle
  split
  case h_1 e =>
    split
    · exact ⟨.keeps (.inl rfl) rfl, h⟩
    · next cell _ =>
      have hscroll := s.press_leaves e cell t.model
      exact ⟨.keeps (.inr hscroll) rfl, hnone hscroll⟩
  case h_2 e =>
    split
    · exact ⟨.keeps (.inl rfl) rfl, h⟩
    · next hdragging =>
      rw [Bool.not_eq_true, Bool.not_eq_false'] at hdragging
      obtain ⟨hwaits, hstill⟩ :=
        ({ s with pointer := some e.point } : CellSelection α).waits_dragScroll e.point t
      generalize ({ s with pointer := some e.point } : CellSelection α).dragScroll e.point t = r
        at hwaits hstill
      obtain ⟨hscroll, hsame, -, -⟩ := r.1.extendTo?_leaves r.2.model
        ((e.cell?.bind placeOf?).or (nearestCell? r.2.model e.point))
      refine ⟨?_, fun _ => hsame.trans (hstill.trans hdragging)⟩
      rw [← hscroll] at hwaits
      cases hwaits with
      | keeps awaited timers => exact .keeps awaited timers
      | sets columns rows due awaited timers => exact .sets columns rows due awaited timers
  case h_3 =>
    split
    · exact ⟨.keeps (.inr rfl) rfl, hnone rfl⟩
    · exact ⟨.keeps (.inr rfl) rfl, hnone rfl⟩
  case h_4 e =>
    split
    · exact ⟨.keeps (.inl rfl) rfl, h⟩
    · next s' m' hkey =>
      obtain hscroll | ⟨hscroll, hdragging⟩ := key?_leaves hkey
      · exact ⟨.keeps (.inr hscroll) rfl, hnone hscroll⟩
      · refine ⟨.keeps (.inl hscroll) rfl, ?_⟩
        change s'.scroll.isSome = true → s'.dragging = true
        rw [hscroll, hdragging]
        apply h
  case h_5 => exact ⟨.keeps (.inl rfl) rfl, h⟩

end CellSelection

/-! ### All features -/

namespace BuiltIn

theorem waits_handle {f : BuiltIn α} (h : f.ScrollsInDrag) (input : Input α) (t : GridTurn α σ) :
  t.Waits (f.handle input t).turn f.scrolling? (f.handle input t).feature.scrolling?
    ∧ (f.handle input t).feature.ScrollsInDrag
  := by
  by_cases hmoving : f.name = "column_moving"
  · cases f with
    | columnMoving s => apply s.waits_handle h
    | _ => simp [name] at hmoving
  · by_cases hcells : f.name = "cell_selection"
    · cases f with
      | cellSelection s => apply s.waits_handle h
      | _ => simp [name] at hcells
    · have hname := f.name_handle input t
      rw [← hname] at hmoving hcells
      obtain ⟨hnone, hsound⟩ := scrolling?_of_name hmoving hcells
      refine ⟨.keeps (.inr hnone) ?_, hsound⟩
      rw [hname] at hmoving hcells
      rw [turn_handle hmoving hcells]

/-- What a feature does with a timer. -/
inductive Fires (f : BuiltIn α) (timer : TimerToken) (t : GridTurn α σ)
    (r : Reply Unit (BuiltIn α) (Model α σ)) : Prop where
  /-- The feature does not wait for this timer. -/
  | ignores (other : ∀ d, f.scrolling? = some d → d.timer ≠ timer) (reply : r = ⟨.ok (), f, t⟩)
  /-- The grid cannot be scrolled any further. -/
  | ends {d : DragScroll} (awaited : f.scrolling? = some d) (token : d.timer = timer)
    (after : r.feature.scrolling? = none) (turn : r.turn = t)
  | steps {d : DragScroll} (awaited : f.scrolling? = some d) (token : d.timer = timer)
    (step : t.Steps r.turn d r.feature.scrolling?)

theorem fires_columnMoving (s : ColumnMoving α) (timer : TimerToken) (t : GridTurn α σ) :
  Fires (.columnMoving s) timer t (fire (.columnMoving s) timer t)
    ∧ ((BuiltIn.columnMoving s).ScrollsInDrag →
      (fire (.columnMoving s) timer t).feature.ScrollsInDrag)
  := by
  cases s with
  | idle => exact ⟨.ignores (fun _ hd => by cases hd) rfl, id⟩
  | armed d => exact ⟨.ignores (fun _ hd => by cases hd) rfl, id⟩
  | dragging d =>
    simp only [fire, ColumnMoving.fire]
    split
    case h_1 a ha =>
      obtain ⟨hsome, htimer⟩ := Option.filter_eq_some_iff.mp ha
      have hd : (BuiltIn.columnMoving (.dragging d)).scrolling?
          = some ⟨a.direction, 0, a.timer⟩ := by
        change Option.map _ d.autoscroll = _
        rw [hsome]
        rfl
      refine ⟨?_, fun _ => trivial⟩
      obtain ⟨hnone, hturn⟩ | hsteps :=
        ColumnMoving.steps_scrollStep d a.direction (a.attempt + 1) t a.timer
      · exact .ends hd (of_decide_eq_true htimer) hnone hturn
      · exact .steps hd (of_decide_eq_true htimer) hsteps
    case h_2 hnone =>
      refine ⟨.ignores ?_ rfl, id⟩
      intro d' hd' htimer
      obtain ⟨a, ha, rfl⟩ := Option.map_eq_some_iff.mp hd'
      rw [ha, Option.filter_some, if_pos (decide_eq_true htimer)] at hnone
      cases hnone

theorem fires_cellSelection (s : CellSelection α) (timer : TimerToken) (t : GridTurn α σ)
    (h : (BuiltIn.cellSelection s).ScrollsInDrag) :
  Fires (.cellSelection s) timer t (fire (.cellSelection s) timer t)
    ∧ (fire (.cellSelection s) timer t).feature.ScrollsInDrag
  := by
  simp only [fire, CellSelection.fire]
  split
  case h_1 hnone =>
    refine ⟨.ignores ?_ rfl, h⟩
    intro d hd htimer
    have hdragging : s.dragging = true := isDragging_of_scrolling? h hd
    rw [show s.scroll = some d from hd, Option.filter_some,
      if_pos (by rw [hdragging, Bool.true_and, decide_eq_true htimer])] at hnone
    cases hnone
  case h_2 d hd =>
    obtain ⟨hsome, htimer⟩ := Option.filter_eq_some_iff.mp hd
    obtain ⟨hdragging, htimer⟩ := Bool.and_eq_true_iff.mp htimer
    obtain ⟨hsteps, hstill⟩ := s.steps_scrollStep d.columns d.rows t d.timer
    refine ⟨?_, fun _ => hstill.trans hdragging⟩
    obtain ⟨hnone, hturn⟩ | hsteps := hsteps
    · exact .ends hsome (of_decide_eq_true htimer) hnone hturn
    · exact .steps hsome (of_decide_eq_true htimer) hsteps

theorem fires_fire {f : BuiltIn α} (h : f.ScrollsInDrag) (timer : TimerToken) (t : GridTurn α σ) :
  Fires f timer t (f.fire timer t) ∧ (f.fire timer t).feature.ScrollsInDrag
  := by
  cases f with
  | columnMoving s =>
    obtain ⟨hfires, hsound⟩ := fires_columnMoving s timer t
    exact ⟨hfires, hsound h⟩
  | cellSelection s => apply fires_cellSelection s timer t h
  | _ => exact ⟨.ignores (fun _ hd => by cases hd) rfl, h⟩

end BuiltIn

end DataGrid
