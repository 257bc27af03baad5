import DataGrid.Proofs.Grid.Escape
import DataGrid.Proofs.Grid.Gestures
import DataGrid.Proofs.Grid.Reattachment
import DataGrid.Proofs.Pipeline.ScrollSteps

/-!
# Scrolling runs out

In a grid of the default features just one timer waits for the next step of a scrolling, whatever is
done to the grid (`Grid.ScrollsOnce`).  Each step takes away from the room that there is for
scrolling the same way, and while every press is followed by a release before the next press, two
features never scroll at a time.  So a grid that does nothing but tick comes to a rest
(`Grid.RunsOut`).
-/

namespace DataGrid

variable {α σ : Type}

namespace Model

variable [Pixel α] [DataSource σ] {m m' : Model α σ}

theorem room_of_still_eq (h : m'.still = m.still) (columns rows : Int) :
  m'.room columns rows = m.room columns rows
  := congrArg (fun m => m.room columns rows) h

end Model

namespace Grid

variable [Pixel α] [DataSource σ] {g : Grid α σ (BuiltIn α)}

/-! ### Runs of ticks -/

/-- How often the feature at an index scrolls the grid in some ticks, one after the other. -/
def steps (index : Nat) (g : Grid α σ (BuiltIn α)) : List Float → Nat
  | [] => 0
  | now :: rest =>
    Pipeline.countSteps index now (g.pipeline.fired (Input α) g.model now)
      + steps index (g.perform (.tick now)).grid rest

/-- The grid after some ticks. -/
def afterTicks (g : Grid α σ (BuiltIn α)) (times : List Float) : Grid α σ (BuiltIn α) :=
  g.run (times.map .tick)

theorem scrollsAlone_tick (h : g.pipeline.ScrollsAlone g.model) (now : Float) :
  let g' := (g.perform (.tick now)).grid
  let xs := g.pipeline.fired (Input α) g.model now
  g'.pipeline.ScrollsAlone g'.model
    ∧ (∀ index, Pipeline.countSteps index now xs + g'.pipeline.stepsLeft g'.model index
      ≤ g.pipeline.stepsLeft g.model index)
    ∧ g'.pipeline.timers.next = g.pipeline.timers.next
      + Pipeline.countSteps movingIndex now xs + Pipeline.countSteps cellsIndex now xs
  := by
  intro g' xs
  obtain ⟨hpipeline, hmodel⟩ := g.perform_tick_eq now
  obtain ⟨halone, hleft, hnext⟩ := h.tick now
  rw [show g'.pipeline = _ from hpipeline]
  refine ⟨⟨halone.names, halone.sound, halone.exclusive, ?_⟩, ?_, hnext⟩
  · apply Model.isCoherent_of_still_eq hmodel halone.coherent
  · intro index
    have hindex := hleft index
    rw [Pipeline.stepsLeft] at hindex ⊢
    simp only [show g'.model = (g.perform (.tick now)).grid.model from rfl,
      Model.room_of_still_eq hmodel]
    apply hindex

/-- There are no more steps than there is room for, and each timer that is set is set by one. -/
theorem scrollsAlone_afterTicks (h : g.pipeline.ScrollsAlone g.model) (times : List Float) :
  (g.afterTicks times).pipeline.ScrollsAlone (g.afterTicks times).model
    ∧ (∀ index, g.steps index times ≤ g.pipeline.stepsLeft g.model index)
    ∧ (g.afterTicks times).pipeline.timers.next
      = g.pipeline.timers.next + g.steps movingIndex times + g.steps cellsIndex times
  := by
  induction times generalizing g with
  | nil => exact ⟨h, fun _ => Nat.zero_le _, rfl⟩
  | cons now rest ih =>
    obtain ⟨halone, hleft, hnext⟩ := scrollsAlone_tick h now
    obtain ⟨hafter, hsteps, hlast⟩ := ih halone
    refine ⟨hafter, ?_, ?_⟩
    · intro index
      have hfirst := hleft index
      have hrest := hsteps index
      rw [steps]
      omega
    · rw [steps, steps]
      apply hlast.trans
      rw [hnext]
      ac_rfl

/-! ### What holds of a grid -/

/-- What holds of the timers of a grid whose features that move columns and that select cells are in
certain states.  Of a scrolling that goes on, just one timer waits, and it is the one that its
feature waits for (`autoscroll`, `dragScroll`); all other timers of features do nothing when they go
off (`stale`). -/
structure ScrollsOnce (g : Grid α σ (BuiltIn α)) (s : ColumnMoving α) (c : CellSelection α) :
    Prop where
  moving : g.pipeline.features[movingIndex]? = some (.columnMoving s)
  cells : g.pipeline.features[cellsIndex]? = some (.cellSelection c)
  autoscroll : ∀ {d : ColumnDrag α} {a : Autoscroll}, s = .dragging d → d.autoscroll = some a →
    ∃ due, g.pipeline.timers.pending.filter (fun t => t.token = a.timer)
      = [⟨due, .feature movingIndex, a.timer⟩]
  dragScroll : ∀ {d : DragScroll}, c.scroll = some d → c.dragging = true
    ∧ ∃ due, g.pipeline.timers.pending.filter (fun t => t.token = d.timer)
      = [⟨due, .feature cellsIndex, d.timer⟩]
  stale : ∀ {t : Timer} {i : Nat}, t ∈ g.pipeline.timers.pending → t.target = .feature i →
    (∀ d a, s = .dragging d → d.autoscroll = some a → t.token ≠ a.timer) →
    (∀ d, c.scroll = some d → t.token ≠ d.timer) →
    ∀ (now : Float) (m : Model α σ),
      Pipeline.fireOne (Input α) now t g.pipeline m = ⟨.ok (), g.pipeline, m⟩

/-- What becomes of the scrolling in a grid to which nothing is done but that it ticks.  There are
so many steps at most (`columns`, `cells`), nothing but a step sets a timer (`set`), and so there is
a tick after which no timer is set any more (`quiet`). -/
structure RunsOut (g : Grid α σ (BuiltIn α)) : Prop where
  columns : ∀ times, g.steps movingIndex times ≤ g.model.limits.left
  cells : ∀ times, g.steps cellsIndex times ≤ g.model.limits.left + g.model.limits.top
  set : ∀ times, (g.afterTicks times).pipeline.timers.next
    = g.pipeline.timers.next + g.steps movingIndex times + g.steps cellsIndex times
  quiet : ∀ times : Nat → Float, ∃ n, ∀ k, n ≤ k →
    (g.afterTicks ((List.range k).map times)).pipeline.timers.next
      = (g.afterTicks ((List.range n).map times)).pipeline.timers.next

theorem scrollsOnce_of_awaitsTimers (h : g.pipeline.AwaitsTimers [])
    (hnames : g.pipeline.features.map BuiltIn.name = defaultFeatures) :
  ∃ s c, g.ScrollsOnce s c
  := by
  obtain ⟨s, hs⟩ := Pipeline.exists_columnMoving hnames
  obtain ⟨c, hc⟩ := Pipeline.exists_cellSelection hnames
  have hscrolling {d : ColumnDrag α} {a : Autoscroll} (hd : s = .dragging d)
      (ha : d.autoscroll = some a) :
      (BuiltIn.columnMoving s).scrolling? = some ⟨a.direction, 0, a.timer⟩ := by
    rw [hd, BuiltIn.scrolling?, ColumnDrag.scrolling?, ha]
    rfl
  refine ⟨s, c, hs, hc, ?_, ?_, ?_⟩
  case refine_1 =>
    intro d a hd ha
    apply h.pending_eq hs (hscrolling hd ha)
  case refine_2 =>
    intro d hd
    exact ⟨BuiltIn.isDragging_of_scrolling? (h.sound hc) hd, h.pending_eq hc hd⟩
  case refine_3 =>
    intro t i _ htarget hmoving hcells now m
    apply h.fireOne_eq htarget
    intro f d hf hd
    -- only two features wait for timers
    have hname := Pipeline.getElem?_name hnames hf
    cases f with
    | columnMoving s' =>
      obtain rfl := Pipeline.index_eq_of_name_eq hnames hf hs rfl
      obtain rfl := BuiltIn.columnMoving.inj (Option.some.inj (hs.symm.trans hf))
      cases s with
      | dragging d' =>
        obtain ⟨a, ha, rfl⟩ := Option.map_eq_some_iff.mp hd
        apply Ne.symm (hmoving d' a rfl ha)
      | _ => cases hd
    | cellSelection c' =>
      obtain rfl := Pipeline.index_eq_of_name_eq hnames hf hc rfl
      obtain rfl := BuiltIn.cellSelection.inj (Option.some.inj (hc.symm.trans hf))
      apply Ne.symm (hcells d hd)
    | _ => cases hd

theorem afterTicks_succ (g : Grid α σ (BuiltIn α)) (times : Nat → Float) (n : Nat) :
  g.afterTicks ((List.range (n + 1)).map times)
    = ((g.afterTicks ((List.range n).map times)).perform (.tick (times n))).grid
  := by
  rw [afterTicks, List.range_succ, List.map_append, List.map_append, run, List.foldl_append]
  rfl

theorem runsOut_of_scrollsAlone (h : g.pipeline.ScrollsAlone g.model) :
  g.RunsOut
  := by
  have hcolumns (times : List Float) : g.steps movingIndex times ≤ g.model.limits.left := by
    apply Nat.le_trans ((scrollsAlone_afterTicks h times).2.1 movingIndex)
    obtain ⟨s, hs⟩ := Pipeline.exists_columnMoving h.names
    rw [Pipeline.stepsLeft, Pipeline.scrollingAt?_of_getElem? hs]
    cases s with
    | dragging d =>
      rw [BuiltIn.scrolling?, ColumnDrag.scrolling?]
      cases d.autoscroll with
      | none => apply Nat.zero_le
      | some a => apply Model.room_columns_le h.coherent
    | _ => apply Nat.zero_le
  have hcells (times : List Float) :
      g.steps cellsIndex times ≤ g.model.limits.left + g.model.limits.top := by
    apply Nat.le_trans ((scrollsAlone_afterTicks h times).2.1 cellsIndex)
    rw [Pipeline.stepsLeft]
    split
    · apply Nat.zero_le
    · apply Model.room_le h.coherent
  have hset (times : List Float) := (scrollsAlone_afterTicks h times).2.2
  refine ⟨hcolumns, hcells, hset, fun times => ?_⟩
  -- the number of the next timer grows with each step, and there is a bound to it
  let next (n : Nat) : Nat := (g.afterTicks ((List.range n).map times)).pipeline.timers.next
  have hmono : Monotone next := by
    apply monotone_nat_of_le_succ
    intro n
    have halone := (scrollsAlone_afterTicks h ((List.range n).map times)).1
    have hnext := (scrollsAlone_tick halone (times n)).2.2
    rw [← afterTicks_succ] at hnext
    change _ ≤ (g.afterTicks ((List.range (n + 1)).map times)).pipeline.timers.next
    rw [hnext, Nat.add_assoc]
    apply Nat.le_add_right
  have hbound (n : Nat) : next n ≤ g.pipeline.timers.next + g.model.limits.left
      + (g.model.limits.left + g.model.limits.top) := by
    change (g.afterTicks ((List.range n).map times)).pipeline.timers.next ≤ _
    rw [hset]
    apply Nat.add_le_add (Nat.add_le_add_left (hcolumns _) _) (hcells _)
  obtain ⟨last, n, hlast⟩ := converges_of_monotone_of_bounded hmono hbound
  refine ⟨n, fun k hk => ?_⟩
  exact (hlast k hk).trans (hlast n (Nat.le_refl n)).symm

/-! ### Every grid -/

theorem awaitsTimers_perform (h : g.pipeline.AwaitsTimers []) (c : Call α σ) :
  (g.perform c).grid.pipeline.AwaitsTimers []
  := by
  cases g.effect_perform c with
  | input input press release pipeline =>
    rw [pipeline]
    apply h.dispatch
  | tick now call pipeline =>
    rw [pipeline]
    apply h.tick
  | other press release pipeline =>
    rw [pipeline]
    apply h

omit [Pixel α] [DataSource σ] in
theorem awaitsTimers_ofNames {p : Pipeline (BuiltIn α)} {names : List String}
    (h : Pipeline.ofNames names = .ok p) :
  p.AwaitsTimers []
  := by
  have hnew {i : Nat} {f : BuiltIn α} (hf : p.features[i]? = some f) :=
    BuiltIn.scrolling?_of_mem_all (Pipeline.mem_all_of_ofNames h (List.mem_of_getElem? hf))
  obtain ⟨-, hp⟩ := Pipeline.names_ofNames h
  constructor
  case sound =>
    intro i f hf
    apply (hnew hf).2
  case awaited =>
    intro i f d hf hd
    cases hd.symm.trans (hnew hf).1
  case apart =>
    rw [hp]
    constructor
    · apply List.nodup_nil
    · intro t ht
      cases ht

theorem LeadsTo.awaitsTimers {P : Grid α σ (BuiltIn α) → Prop} {g' : Grid α σ (BuiltIn α)}
    (h : g.LeadsTo P g') (hg : g.pipeline.AwaitsTimers []) :
  g'.pipeline.AwaitsTimers []
  := by
  induction h with
  | refl _ => apply hg
  | perform c _ _ ih => apply awaitsTimers_perform ih c
  | listen notifier _ _ ih => apply ih
  | edit m _ _ ih => apply ih

theorem LeadsTo.names {P : Grid α σ (BuiltIn α) → Prop} {g' : Grid α σ (BuiltIn α)}
    (h : g.LeadsTo P g') (hg : g.pipeline.features.map BuiltIn.name = defaultFeatures) :
  g'.pipeline.features.map BuiltIn.name = defaultFeatures
  := by
  induction h with
  | refl _ => apply hg
  | perform c _ _ ih => apply names_perform ih c
  | listen notifier _ _ ih => apply ih
  | edit m _ _ ih => apply ih

/-- If every press is followed by a release before the next press, no two features scroll. -/
theorem scrollsAlone_run
    (hrows : ∀ (data : σ) (x y : Nat) (value : CellValue),
      DataSource.rowCount (DataSource.setValue data x y value) = DataSource.rowCount data)
    (hclean : IsInPhase false g) (hawaits : g.pipeline.AwaitsTimers [])
    (hnames : g.pipeline.features.map BuiltIn.name = defaultFeatures)
    (hcoherent : g.model.IsCoherent) {calls : List (Call α σ)}
    (hcalls : Call.pressesApart false calls = true) :
  (g.run calls).pipeline.ScrollsAlone (g.run calls).model
  := by
  have hafter := Keeps.run (M := fun p (_ : Model α σ) => p.AwaitsTimers [])
    (fun c h => awaitsTimers_perform h c) hawaits calls
  have hengaged := (hclean.run hcalls).1 calls.length
  rw [List.take_length] at hengaged
  constructor
  case names =>
    apply Keeps.run (M := fun p (_ : Model α σ) => p.features.map BuiltIn.name = defaultFeatures)
      (fun c h => names_perform h c) hnames calls
  case sound =>
    intro i f hf
    apply hafter.sound hf
  case exclusive => apply hengaged.isExclusive
  case coherent =>
    apply Keeps.run (M := fun _ m => m.IsCoherent) (isCoherent_perform hrows) hcoherent calls

/-- In a grid of the default features, whatever is done to it, a scrolling that goes on waits for
just one timer, and all other timers of features do nothing.  After calls in which every press is
followed by a release before the next press, nothing but ticks leads to so many further steps of the
scrolling and to no more. -/
theorem scrollsOnce_and_runsOut
    (hrows : ∀ (data : σ) (x y : Nat) (value : CellValue),
      DataSource.rowCount (DataSource.setValue data x y value) = DataSource.rowCount data)
    (data : σ) (schema : List ColumnSchema) {config : Config α}
    (hfeatures : config.features = defaultFeatures) :
  ∃ g : Grid α σ (BuiltIn α), ofConfig data schema config = .ok g
    ∧ (∀ g', g.LeadsTo (fun _ => True) g' → ∃ s c, g'.ScrollsOnce s c)
    ∧ ∀ calls : List (Call α σ), Call.pressesApart false calls = true → (g.run calls).RunsOut
  := by
  obtain ⟨p, hp, hg⟩ := exists_ofConfig_default data schema hfeatures
  have hawaits := awaitsTimers_ofNames hp
  have hnames := (Pipeline.names_ofNames hp).1
  refine ⟨_, hg, ?_, ?_⟩
  · intro g' hg'
    apply scrollsOnce_of_awaitsTimers (hg'.awaitsTimers hawaits) (hg'.names hnames)
  · intro calls hcalls
    have hclean : IsInPhase false (ofPipeline data schema config p) := by
      constructor
      case rest =>
        intro f hf
        apply isDragging_of_mem_all (Pipeline.mem_all_of_ofNames hp hf)
      case overlays => rfl
    apply runsOut_of_scrollsAlone
    apply scrollsAlone_run hrows hclean hawaits hnames (isCoherent_ofConfig hg) hcalls

/-- A table with more rows than there is room for on the screen. -/
theorem scrollsOnce_and_runsOut_table :
  let config : Config Rat := { Config.default with rowHeight := 200 }
  let data : Table := Table.generate 2 6 fun x y => .text (toString (x + y))
  (∀ (data : Table) (x y : Nat) (value : CellValue),
      DataSource.rowCount (DataSource.setValue data x y value) = DataSource.rowCount data)
    ∧ config.features = defaultFeatures
    ∧ ∃ g : Grid Rat Table (BuiltIn Rat),
      ofConfig data (ColumnSchema.ofNames ["a", "b"]) config = .ok g
      ∧ (∀ g', g.LeadsTo (fun _ => True) g' → ∃ s c, g'.ScrollsOnce s c)
      ∧ ∀ calls : List (Call Rat Table), Call.pressesApart false calls = true →
        (g.run calls).RunsOut
  := by
  intro config data
  exact ⟨Table.rowCount_setValue, rfl, scrollsOnce_and_runsOut Table.rowCount_setValue data _ rfl⟩

end Grid

end DataGrid
