import Mathlib
import DataGrid.Proofs.Grid.Reachable
import DataGrid.Proofs.Grid.Settle
import DataGrid.Proofs.Pipeline.Pressing
import DataGrid.Table

/-!
# Dragging columns

A press takes hold of columns, drags and ticks follow in any order, and a release lets go of them.
Until then the order of the columns stays as it is.  After that the columns have been moved in one
piece, or nothing has been moved (`Grid.dragsColumns_of_press`).
-/

namespace DataGrid

variable {α σ : Type}

/-- Whether a call is one of those between a press and a release: a drag, or time that passes. -/
def Call.isBetween : Call α σ → Bool
  | .pointer .drag _ _ _ => true
  | .tick _ => true
  | .setClock _ => true
  | _ => false

namespace Grid

variable [Pixel α] [DataSource σ]

/-- The columns that are held. -/
def columnDrag? (g : Grid α σ (BuiltIn α)) : Option (ColumnDrag α) := g.pipeline.columnDrag?

/-- Since grid `j` of a sequence the held columns would be put before `target`, which was picked
then, and so it still is at grid `n`. -/
structure Picked (held : Nat → Grid α σ (BuiltIn α)) (target j n : Nat) : Prop where
  le : j ≤ n
  picked : ∃ d, (held j).columnDrag? = some d
    ∧ ColumnMoving.target? (held j).model d.pointer.x = some target
  since : ∀ i, j ≤ i → i ≤ n → ∃ d, (held i).columnDrag? = some d ∧ d.target = some target

/-! ### One call -/

/-- While columns are held, a drag or a tick does nothing but let them follow or scroll. -/
theorem moves_perform {g : Grid α σ (BuiltIn α)} {k : Nat} {s : ColumnMoving α}
    {d : ColumnDrag α} (h : g.pipeline.Holds k s) (hd : s.drag? = some d) {c : Call α σ}
    (hc : c.isBetween = true) :
  ∃ s' m', (g.perform c).grid.pipeline.Holds k s' ∧ ColumnMoving.Moves g.model s m' s'
    ∧ (g.perform c).grid.model.still = m'.still
  := by
  cases c with
  | setClock now => exact ⟨s, g.model, h, .rest, rfl⟩
  | tick now =>
    obtain ⟨hpipeline, hmodel⟩ := g.perform_tick_eq now
    obtain ⟨s', holds, moves⟩ := h.tick g.model now
    rw [← hpipeline] at holds
    exact ⟨s', _, holds, moves, hmodel⟩
  | pointer kind point button modifiers =>
    cases kind with
    | drag =>
      obtain ⟨hpipeline, hmodel⟩ := g.perform_pointer_eq .drag point button modifiers
      obtain ⟨s', holds, moves⟩ := h.dispatch_drag hd g.model g.now
        (g.pointerEvent point button modifiers)
      rw [← hpipeline] at holds
      exact ⟨s', _, holds, moves, hmodel⟩
    | _ => cases hc
  | _ => cases hc

/-- While columns are held, a drag or a tick changes neither their order nor the settings. -/
theorem follows_perform {g : Grid α σ (BuiltIn α)} {k : Nat} {s : ColumnMoving α}
    {d : ColumnDrag α} (h : g.pipeline.Holds k s) (hd : s.drag? = some d) {c : Call α σ}
    (hc : c.isBetween = true) :
  ∃ s' d', (g.perform c).grid.pipeline.Holds k s' ∧ s'.drag? = some d'
    ∧ ColumnMoving.Follows g.model d (g.perform c).grid.model d'
  := by
  obtain ⟨s', m', holds, moves, hmodel⟩ := moves_perform h hd hc
  obtain ⟨d', hd', follows⟩ := moves.follows hd
  exact ⟨s', d', holds, hd', follows.settled (Model.silent_eq_of_still_eq hmodel)⟩

/-- What a press that takes hold of columns has done: it holds a run behind the fixed columns, has
picked no place for it, and has moved nothing. -/
structure Seized (g g' : Grid α σ (BuiltIn α)) (d : ColumnDrag α) : Prop where
  holds : ∃ k s, g'.pipeline.Holds k s ∧ s.drag? = some d
  autoscroll_eq : d.autoscroll = none
  target_eq : d.target = none
  count_pos : 0 < d.count
  fixedColumns_eq : g.model.fixedColumns = g.model.config.fixedColumns
  fixedColumns_le : g.model.fixedColumns ≤ d.start
  frame_eq : g'.model.toFrame.silent = g.model.toFrame.silent
  dropBar_eq : g'.model.overlays.dropBar = some (ColumnMoving.dropBar g.model d.start)
  /-- The column that is pressed is on the screen and scrolls. -/
  scrolling : ∃ column ∈ g.model.layout.columns, ∃ i, column.slot = .shown i
    ∧ g.model.fixedColumns ≤ i

theorem seized_of_press {g : Grid α σ (BuiltIn α)} (hg : g.IsReachable)
    (hrest : ∀ f ∈ g.pipeline.features, f.isDragging = false) {point : Point α} {button : Button}
    {modifiers : Modifiers} {d : ColumnDrag α}
    (hd : (g.perform (.pointer .down point button modifiers)).grid.columnDrag? = some d) :
  g.Seized (g.perform (.pointer .down point button modifiers)).grid d
  := by
  obtain ⟨hpipeline, hmodel⟩ := g.perform_pointer_eq .down point button modifiers
  have hpressed := Pipeline.pressed_dispatch
    (fun f hf => BuiltIn.isAtRest_of_isDragging (hrest f hf)) hg.isNumbered g.model g.now
    (g.pointerEvent point button modifiers)
  rw [columnDrag?, hpipeline] at hd
  cases hpressed with
  | other hnone =>
    rw [hnone] at hd
    cases hd
  | held k pressed seen_eq holds model_eq =>
    rw [holds.columnDrag?_eq rfl] at hd
    obtain rfl := Option.some.inj hd
    rw [← hpipeline] at holds
    obtain ⟨hfixed, hlt⟩ := ColumnMoving.bounds_of_pressed? hg.hasPlacedColumns rfl pressed
    have fixedColumns_eq : g.model.fixedColumns = g.model.config.fixedColumns :=
      Nat.min_eq_left (Nat.le_of_lt (Nat.lt_of_le_of_lt hfixed hlt))
    have seen_fixed := congrArg Frame.fixedColumns seen_eq
    change _ = g.model.fixedColumns at seen_fixed
    constructor
    case holds => exact ⟨k, _, holds, rfl⟩
    case target_eq => rfl
    case count_pos => apply ColumnMoving.runFor_pos
    case fixedColumns_eq => apply fixedColumns_eq
    case fixedColumns_le =>
      rw [← seen_fixed]
      apply ColumnMoving.fixedColumns_le_runFor
      change Frame.fixedColumns (Frame.silent _) ≤ _
      rw [seen_fixed, fixedColumns_eq]
      apply hfixed
    case autoscroll_eq => rfl
    case frame_eq =>
      rw [Model.silent_eq_of_still_eq hmodel, model_eq]
      apply seen_eq
    case dropBar_eq =>
      rw [Model.overlays_eq_of_still_eq hmodel, model_eq]
      apply congrArg some (ColumnMoving.dropBar_congr seen_eq _)
    case scrolling =>
      obtain ⟨column, hcolumn, hslot⟩ := ColumnMoving.exists_column_of_pressed? rfl pressed
      exact ⟨column, hcolumn, _, hslot, Nat.le_trans (Nat.min_le_left _ _) hfixed⟩

/-- A release leaves the order as it is, or it moves the held columns to the place that was picked
for them and selects them there. -/
theorem perform_up_cases {g : Grid α σ (BuiltIn α)} {k : Nat} {s : ColumnMoving α}
    {d : ColumnDrag α} (h : g.pipeline.Holds k s) (hd : s.drag? = some d) (point : Point α)
    (button : Button) (modifiers : Modifiers) :
  let g' := (g.perform (.pointer .up point button modifiers)).grid
  g'.model.columns.shown = g.model.columns.shown
    ∨ ∃ target, d.target = some target
      ∧ g.model.columns.HasMoved g'.model.columns d.start d.count target
      ∧ g'.model.selection.selectedColumns
          = List.range' (landing d.start d.count target) d.count
  := by
  obtain ⟨-, hmodel⟩ := g.perform_pointer_eq .up point button modifiers
  have hframe := Model.silent_eq_of_still_eq hmodel
  have hdata := congrArg (fun f => f.columns.data) hframe
  have hshown := congrArg (fun f => f.columns.shown) hframe
  have hselection := Model.selection_eq_of_still_eq hmodel
  rw [h.dispatch_up hd g.model g.now (g.pointerEvent point button modifiers)]
    at hdata hshown hselection
  obtain hup | hup := ColumnMoving.letGo_cases hd g.model
  · rw [hup] at hshown
    apply Or.inl hshown
  · rw [hup] at hdata hshown hselection
    obtain hdrop | ⟨target, htarget, hmoved, hselected⟩ :=
      ColumnMoving.drop_cases d (ColumnMoving.clearOverlays g.model)
    · rw [hdrop] at hshown
      apply Or.inl hshown
    · refine Or.inr ⟨target, htarget, hmoved.congr hdata hshown, ?_⟩
      rw [hselection]
      apply hselected

/-! ### A run of calls -/

section Run

variable {held : Nat → Grid α σ (BuiltIn α)} {d d' : ColumnDrag α} {target j n : Nat}

omit [DataSource σ] in
/-- A place that has just been picked. -/
theorem Picked.now (hd : (held n).columnDrag? = some d) (htarget : d.target = some target)
    (hpicked : ColumnMoving.target? (held n).model d.pointer.x = some target) :
  Picked held target n n
  := by
  constructor
  case le => apply Nat.le_refl
  case picked => exact ⟨d, hd, hpicked⟩
  case since =>
    intro i hn hi
    obtain rfl := Nat.le_antisymm hi hn
    exact ⟨d, hd, htarget⟩

omit [DataSource σ] in
/-- A place that is kept. -/
theorem Picked.next (h : Picked held target j n) (hd : (held (n + 1)).columnDrag? = some d)
    (htarget : d.target = some target) :
  Picked held target j (n + 1)
  := by
  constructor
  case le => apply Nat.le_succ_of_le h.le
  case picked => apply h.picked
  case since =>
    intro i hj hi
    obtain hlt | rfl := Nat.lt_or_eq_of_le hi
    · apply h.since i hj (Nat.le_of_lt_succ hlt)
    · exact ⟨d, hd, htarget⟩

/-- In grid `n` of a sequence the columns that were held in the first are still held.  Neither the
order nor the settings have changed, and a place for the columns was picked somewhere on the way. -/
structure Carried (held : Nat → Grid α σ (BuiltIn α)) (d : ColumnDrag α) (n : Nat) : Prop where
  shown_eq : (held n).model.columns.shown = (held 0).model.columns.shown
  config_eq : (held n).model.config = (held 0).model.config
  holds : ∃ k s d', (held n).pipeline.Holds k s ∧ s.drag? = some d'
    ∧ d'.start = d.start ∧ d'.count = d.count
    ∧ ∀ target, d'.target = some target → ∃ j, Picked held target j n

omit [DataSource σ] in
/-- Columns that are held go on being held if the next grid follows from this one. -/
theorem Carried.next (h : Carried held d n)
    (hnext : ∀ {k : Nat} {s : ColumnMoving α} {d : ColumnDrag α}, (held n).pipeline.Holds k s →
      s.drag? = some d → ∃ s' d', (held (n + 1)).pipeline.Holds k s' ∧ s'.drag? = some d'
        ∧ ColumnMoving.Follows (held n).model d (held (n + 1)).model d') :
  Carried held d (n + 1)
  := by
  obtain ⟨k, s, d₁, holds, hd, start_eq, count_eq, picked⟩ := h.holds
  obtain ⟨s', d', holds', hd', follows⟩ := hnext holds hd
  have held_eq : (held (n + 1)).columnDrag? = some d' := holds'.columnDrag?_eq hd'
  constructor
  case shown_eq => apply follows.shown_eq.trans h.shown_eq
  case config_eq => apply follows.config_eq.trans h.config_eq
  case holds =>
    refine ⟨k, s', d', holds', hd', follows.start_eq.trans start_eq,
      follows.count_eq.trans count_eq, ?_⟩
    intro target htarget
    obtain hnone | hkept | ⟨target', htarget', hpicked⟩ := follows.target_eq
    · rw [hnone] at htarget
      cases htarget
    · obtain ⟨j, hj⟩ := picked target (hkept.symm.trans htarget)
      exact ⟨j, hj.next held_eq htarget⟩
    · obtain rfl := Option.some.inj (htarget'.symm.trans htarget)
      exact ⟨n + 1, Picked.now held_eq htarget' hpicked⟩

/-- Through drags and ticks held columns are carried along. -/
theorem carried_run {g : Grid α σ (BuiltIn α)} {k : Nat} {s : ColumnMoving α}
    (h : g.pipeline.Holds k s) (hd : s.drag? = some d) (htarget : d.target = none)
    {moves : List (Call α σ)} (hmoves : ∀ c ∈ moves, c.isBetween = true) (n : Nat) :
  Carried (fun n => g.run (moves.take n)) d n
  := by
  induction n with
  | zero =>
    constructor
    case shown_eq => rfl
    case config_eq => rfl
    case holds =>
      refine ⟨k, s, d, h, hd, rfl, rfl, ?_⟩
      intro target hsome
      rw [htarget] at hsome
      cases hsome
  | succ n ih =>
    apply ih.next
    intro k s d holds hd
    obtain hlt | hle := Nat.lt_or_ge n moves.length
    · rw [run_take_succ g hlt]
      apply follows_perform holds hd (hmoves _ (List.getElem_mem hlt))
    · have hrun : moves.take (n + 1) = moves.take n := by
        rw [List.take_of_length_le hle, List.take_of_length_le (Nat.le_succ_of_le hle)]
      rw [hrun]
      exact ⟨s, d, holds, hd, ColumnMoving.Follows.refl _ d⟩

omit [DataSource σ] in
theorem Carried.fixedColumns_eq (h : Carried held d n) :
  (held n).model.fixedColumns = (held 0).model.fixedColumns
  := by
  rw [Frame.fixedColumns, Frame.fixedColumns, Columns.shownCount, Columns.shownCount, h.shown_eq,
    h.config_eq]

/-- A place for columns that are held all the time lies behind the columns that were fixed or
scrolled out when it was picked, and not beyond the last column. -/
theorem bounds_of_carried (hcarried : ∀ n, Carried held d n)
    (hreachable : ∀ n, (held n).IsReachable) (hd : (held n).columnDrag? = some d')
    (htarget : d'.target = some target) :
  d'.start = d.start ∧ d'.count = d.count
    ∧ (∃ j, Picked held target j n
      ∧ (held 0).model.fixedColumns + (held j).model.viewport.scrollLeft ≤ target)
    ∧ target ≤ (held n).model.columns.shownCount
  := by
  obtain ⟨k, s, d₁, holds, hs, start_eq, count_eq, picked⟩ := (hcarried n).holds
  obtain rfl := Option.some.inj ((holds.columnDrag?_eq hs).symm.trans hd)
  obtain ⟨j, hj⟩ := picked target htarget
  obtain ⟨_, -, haim⟩ := hj.picked
  obtain ⟨hle, hge⟩ := ColumnMoving.bounds_of_target? (hreachable j).hasPlacedColumns haim
  rw [(hcarried j).fixedColumns_eq] at hle
  rw [Columns.shownCount, (hcarried j).shown_eq, ← (hcarried n).shown_eq] at hge
  exact ⟨start_eq, count_eq, ⟨j, hj, hle⟩, hge⟩

/-- A release moves columns that are held all the time to a place behind the fixed ones, where they
are selected, or it moves nothing. -/
theorem runMoved_of_carried (hcarried : ∀ n, Carried held d n)
    (hreachable : ∀ n, (held n).IsReachable) (hfixed : (held 0).model.fixedColumns ≤ d.start)
    (point : Point α) (button : Button) (modifiers : Modifiers) :
  let g' := ((held n).perform (.pointer .up point button modifiers)).grid
  ∃ place, RunMoved (held 0).model.columns.shown g'.model.columns.shown d.start d.count place
    ∧ (held 0).model.fixedColumns ≤ place
    ∧ (g'.model.columns.shown ≠ (held 0).model.columns.shown →
      place + d.count ≤ g'.model.columns.shownCount
        ∧ g'.model.selection.selectedColumns = List.range' place d.count)
  := by
  intro g'
  obtain ⟨k, s, d', holds, hd, start_eq, count_eq, -⟩ := (hcarried n).holds
  have hup := perform_up_cases holds hd point button modifiers
  rw [start_eq, count_eq, (hcarried n).shown_eq] at hup
  obtain same | ⟨target, htarget, hmoved, selected⟩ := hup
  · change g'.model.columns.shown = _ at same
    rw [same]
    exact ⟨d.start, RunMoved.refl _ _ _, hfixed, fun hne => absurd rfl hne⟩
  · obtain ⟨-, -, ⟨j, -, hle⟩, -⟩ :=
      bounds_of_carried hcarried hreachable (holds.columnDrag?_eq hd) htarget
    have hrun := hmoved.runMoved
    rw [(hcarried n).shown_eq] at hrun
    refine ⟨landing d.start d.count target, hrun, ?_, fun _ => ⟨?_, selected⟩⟩
    · rw [landing_eq_of_outside hmoved.target_outside]
      have houtside := hmoved.target_outside
      split
      · omega
      · omega
    · rw [Columns.shownCount, hmoved.runMoved.perm.length_eq]
      apply landing_le hmoved.run_le hmoved.target_le

end Run

/-! ### From press to release -/

/-- What a drag of columns comes to: `g` is the grid before the press that takes hold of them,
`held n` is the one after `n` of the calls that follow, and `g'` is the one after the release. -/
structure DragsColumns (g : Grid α σ (BuiltIn α)) (held : Nat → Grid α σ (BuiltIn α))
    (g' : Grid α σ (BuiltIn α)) (d : ColumnDrag α) : Prop where
  /-- Until the release the order of the columns stays as it is. -/
  shown_held : ∀ n, (held n).model.columns.shown = g.model.columns.shown
  perm : g'.model.columns.shown.Perm g.model.columns.shown
  /-- After it the held columns stand together.  If they stand elsewhere, they are selected. -/
  moved : ∃ place,
    RunMoved g.model.columns.shown g'.model.columns.shown d.start d.count place
      ∧ (g'.model.columns.shown ≠ g.model.columns.shown →
        place + d.count ≤ g'.model.columns.shownCount
          ∧ g'.model.selection.selectedColumns = List.range' place d.count)
  fixed_eq : g'.model.columns.shown.take g.model.config.fixedColumns
    = g.model.columns.shown.take g.model.config.fixedColumns
  count_pos : 0 < d.count
  /-- The held columns are the same all the time, and a place for them is behind the columns that
  were fixed or scrolled out when it was picked. -/
  target : ∀ {n : Nat} {d' : ColumnDrag α} {target : Nat}, (held n).columnDrag? = some d' →
    d'.target = some target →
      d'.start = d.start ∧ d'.count = d.count
        ∧ (∃ j, Picked held target j n
          ∧ g.model.config.fixedColumns + (held j).model.viewport.scrollLeft ≤ target)
        ∧ target ≤ (held n).model.columns.shownCount
  /-- The place that the columns would get has an index. -/
  count_le : ∀ {n : Nat} {target : Nat} {m' : Model α σ},
    (ColumnMoving.clearOverlays (held n).model).moveColumns? d.start d.count target = some m' →
      d.start < target → d.count ≤ target

/-- Until the release the order stays as it is, and after it the held columns have been moved in one
piece, behind the fixed ones, and are selected; or nothing has been moved. -/
theorem dragsColumns_of_press {g : Grid α σ (BuiltIn α)} (hg : g.IsReachable)
    (hrest : ∀ f ∈ g.pipeline.features, f.isDragging = false) {point point' : Point α}
    {button button' : Button} {modifiers modifiers' : Modifiers} {d : ColumnDrag α}
    (hd : (g.perform (.pointer .down point button modifiers)).grid.columnDrag? = some d)
    {moves : List (Call α σ)} (hmoves : ∀ c ∈ moves, c.isBetween = true) :
  let pressed := (g.perform (.pointer .down point button modifiers)).grid
  let released := ((pressed.run moves).perform (.pointer .up point' button' modifiers')).grid
  g.DragsColumns (fun n => pressed.run (moves.take n)) released d
  := by
  intro pressed released
  let held := fun n => pressed.run (moves.take n)
  have seized : g.Seized pressed d := seized_of_press hg hrest hd
  obtain ⟨k, s, holds, hs⟩ := seized.holds
  have carried : ∀ n, Carried held d n := carried_run holds hs seized.target_eq hmoves
  have reachable : ∀ n, (held n).IsReachable := fun n => (hg.perform _).run (moves.take n)
  have shown_eq : (held 0).model.columns.shown = g.model.columns.shown :=
    congrArg (fun f => f.columns.shown) seized.frame_eq
  have fixedColumns_eq : (held 0).model.fixedColumns = g.model.config.fixedColumns :=
    (congrArg Frame.fixedColumns seized.frame_eq).trans seized.fixedColumns_eq
  have fixed_le_start : g.model.config.fixedColumns ≤ d.start := by
    rw [← seized.fixedColumns_eq]
    apply seized.fixedColumns_le
  have hlast : held moves.length = pressed.run moves := by
    change pressed.run (moves.take moves.length) = _
    rw [List.take_length]
  obtain ⟨place, hrun, fixed_le_place, selected⟩ :=
    runMoved_of_carried carried reachable (n := moves.length)
      (Nat.le_trans (Nat.le_of_eq fixedColumns_eq) fixed_le_start) point' button' modifiers'
  rw [hlast, shown_eq] at hrun
  rw [fixedColumns_eq] at fixed_le_place
  rw [hlast, shown_eq] at selected
  constructor
  case shown_held =>
    intro n
    apply (carried n).shown_eq.trans shown_eq
  case perm => apply hrun.perm
  case moved => exact ⟨place, hrun, selected⟩
  case fixed_eq => apply hrun.take_eq fixed_le_start fixed_le_place
  case count_pos => apply seized.count_pos
  case target =>
    intro n d' target hd' htarget
    rw [← fixedColumns_eq]
    apply bounds_of_carried carried reachable hd' htarget
  case count_le =>
    intro n target m' hmove hlt
    have houtside := (Model.hasMoved_of_moveColumns? hmove).target_outside
    omega

/-- The middle one of three columns, dragged to the right edge. -/
theorem dragsColumns_of_press_table :
  let g : Grid Rat Table (BuiltIn Rat) :=
    ofPipeline (Table.generate 3 2 fun x y => .text (toString (x + y)))
      (ColumnSchema.ofNames ["a", "b", "c"]) Config.default (.ofFeatures BuiltIn.all)
  let pressed := (g.perform (.pointer .down ⟨150, 5⟩ .primary .none)).grid
  let moves : List (Call Rat Table) := [.pointer .drag ⟨290, 5⟩ .primary .none, .tick 1]
  let released := ((pressed.run moves).perform (.pointer .up ⟨290, 5⟩ .primary .none)).grid
  g.IsReachable
    ∧ (∀ f ∈ g.pipeline.features, f.isDragging = false)
    ∧ (∀ c ∈ moves, c.isBetween = true)
    ∧ ∃ d, pressed.columnDrag? = some d ∧ (d.start, d.count) = (1, 1)
      ∧ g.DragsColumns (fun n => pressed.run (moves.take n)) released d
  := by
  intro g pressed moves released
  have hnames : Pipeline.ofNames defaultFeatures = .ok (.ofFeatures (BuiltIn.all (α := Rat))) := by
    rw [Pipeline.ofNames]
    rfl
  have hg : g.IsReachable := IsReachable.new _ _ _ hnames
  have hrest : ∀ f ∈ g.pipeline.features, f.isDragging = false := by decide
  have hmoves : ∀ c ∈ moves, c.isBetween = true := by decide
  have hpressed : (pressed.columnDrag?.map fun d => (d.start, d.count)) = some (1, 1) := by cbv
  obtain ⟨d, hd, hrun⟩ := Option.map_eq_some_iff.mp hpressed
  exact ⟨hg, hrest, hmoves, d, hd, hrun, dragsColumns_of_press hg hrest hd hmoves⟩

end Grid

end DataGrid
