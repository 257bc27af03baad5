import Mathlib
import DataGrid.Proofs.Feature.Deeds
import DataGrid.Proofs.Grid.Rules
import DataGrid.Proofs.Grid.Settle
import DataGrid.Proofs.Model.History
import DataGrid.Table

/-!
# What a listener hears of the order

Every call takes down what happens to the order of the shown columns and tells all of it before it
returns (`Grid.Tells`).  So someone who listens from the start can mirror the order by what is heard
(`Grid.isHistory_heard`).
-/

namespace DataGrid

open Notice (orderChanges orderChanges_append)

/-! ### Listeners -/

namespace Notifier

variable {α : Type} {n : Notifier α} {listener : Nat}

/-- What a listener has heard, in order. -/
def heard (n : Notifier α) (listener : Nat) : List (Notice α) :=
  (n.deliveries.filter fun d => d.listener = listener).map (·.notice)

@[simp]
theorem tell_nil (n : Notifier α) :
  n.tell [] = n
  := by
  simp [tell]

theorem tell_append (n : Notifier α) (told told' : List (Notice α)) :
  n.tell (told ++ told') = (n.tell told).tell told'
  := by
  simp [tell]

/-- The listener is subscribed, and nobody else has its number or will get it. -/
structure Reaches (n : Notifier α) (listener : Nat) : Prop where
  mem : listener ∈ n.listeners
  nodup : n.listeners.Nodup
  lt_next : ∀ l ∈ n.listeners, l < n.next

/-- A listener hears all that is told, each notice once. -/
theorem Reaches.heard_tell (h : n.Reaches listener) (told : List (Notice α)) :
  (n.tell told).heard listener = n.heard listener ++ told
  := by
  have hone : n.listeners.filter (fun l => l = listener) = [listener] := by
    rw [List.filter_eq, List.count_eq_one_of_mem h.nodup h.mem]
    rfl
  have heach (e : Notice α) :
      ((n.listeners.map fun l => (⟨l, e⟩ : Delivery α)).filter
        fun d => d.listener = listener).map (·.notice) = [e] := by
    rw [List.filter_map, List.map_map]
    change (n.listeners.filter fun l => l = listener).map (fun _ => e) = [e]
    rw [hone]
    rfl
  rw [heard, tell, List.filter_append, List.map_append, List.filter_flatMap, List.map_flatMap]
  simp only [heach, List.flatMap_singleton', heard]

theorem Reaches.tell (h : n.Reaches listener) (told : List (Notice α)) :
  (n.tell told).Reaches listener
  := ⟨h.mem, h.nodup, h.lt_next⟩

theorem Reaches.subscribe (h : n.Reaches listener) :
  n.subscribe.2.Reaches listener
  := by
  constructor
  case mem => apply List.mem_append_left _ h.mem
  case nodup =>
    apply List.nodup_append.mpr ⟨h.nodup, List.nodup_singleton _, _⟩
    rintro l hl _ hnext rfl
    obtain rfl := List.mem_singleton.mp hnext
    apply Nat.lt_irrefl _ (h.lt_next _ hl)
  case lt_next =>
    intro l hl
    obtain hl | hl := List.mem_append.mp hl
    · apply Nat.lt_succ_of_lt (h.lt_next l hl)
    · obtain rfl := List.mem_singleton.mp hl
      apply Nat.lt_succ_self

theorem Reaches.unsubscribe (h : n.Reaches listener) {other : Nat} (hother : other ≠ listener) :
  (n.unsubscribe other).Reaches listener
  := by
  constructor
  case mem =>
    apply List.mem_filter.mpr ⟨h.mem, _⟩
    apply decide_eq_true hother.symm
  case nodup => apply h.nodup.filter
  case lt_next =>
    intro l hl
    apply h.lt_next l (List.mem_filter.mp hl).1

/-- The first one to listen is heard. -/
theorem reaches_subscribe_empty :
  (empty : Notifier α).subscribe.2.Reaches (empty : Notifier α).subscribe.1
  := by
  constructor
  case mem => apply List.mem_singleton_self
  case nodup => apply List.nodup_singleton
  case lt_next =>
    intro l hl
    obtain rfl := List.mem_singleton.mp hl
    apply Nat.zero_lt_one

end Notifier

variable {α σ : Type} [Pixel α] [DataSource σ]

/-- A change of the model by the host is on record. -/
theorem Call.records_change? {c : Call α σ} {f : Model α σ → Model α σ} (h : c.change? = some f)
    (m : Model α σ) :
  m.Records (f m)
  := by
  cases c with
  | setClock | pointer | key | tick | load | setValue => cases h
  | resizeViewport width height =>
    obtain rfl := Option.some.inj h
    exact .of_eq rfl rfl
  | scrollTo left top =>
    obtain rfl := Option.some.inj h
    apply Model.records_scrollTo
  | scrollBy columns rows =>
    obtain rfl := Option.some.inj h
    apply (Model.Scrolls.scrollBy m columns rows).records
  | setFixedColumns count =>
    obtain rfl := Option.some.inj h
    apply Model.records_setFixedColumns
  | setFixedRows count =>
    obtain rfl := Option.some.inj h
    apply Model.records_setFixedRows
  | moveColumns start count target =>
    obtain rfl := Option.some.inj h
    apply Model.records_moveColumns
  | showColumns source indexes placement duplicates =>
    obtain rfl := Option.some.inj h
    apply Model.records_showColumns
  | hideColumns source indexes =>
    obtain rfl := Option.some.inj h
    apply Model.records_showColumns
  | restore snapshot =>
    obtain rfl := Option.some.inj h
    apply Model.records_restore

/-- Features, their answers and their timers leave a record of the order. -/
theorem Pipeline.keeps_records (m : Model α σ) :
  Pipeline.Keeps (φ := BuiltIn α) (Input α) fun _ m' => m.Records m'
  := by
  constructor
  · intro p m' index f input now h _
    apply h.trans (f.acts_handle input (p.turn m' index now)).records
  · intro p m' index f token now h _
    apply h.trans (f.roams_fire token (p.turn m' index now)).records
  · intro p m' h
    apply h
  · intro p m' now h
    apply h

/-! ### Calls -/

/-- Nothing waits to be told. -/
structure Model.IsQuiet (m : Model α σ) : Prop where
  columns : m.columns.notices = []
  notices : m.notices = []

namespace Grid

variable {g g' : Grid α σ (BuiltIn α)}

omit [Pixel α] [DataSource σ] in
/-- All that came of `g` has been told, and what was told of the order is its history. -/
structure Tells (g g' : Grid α σ (BuiltIn α)) : Prop where
  quiet : g'.model.IsQuiet
  history : ∃ told, g'.notifier = g.notifier.tell told
    ∧ IsHistory g.model.columns.shown (orderChanges told) g'.model.columns.shown

omit [Pixel α] [DataSource σ] in
theorem tells_flush (hquiet : g.model.IsQuiet) (hrecords : g.model.Records g'.model)
    (hnotifier : g'.notifier = g.notifier) :
  g.Tells g'.flush
  := by
  refine ⟨⟨rfl, rfl⟩, g'.model.takeNotices.1, ?_, ?_⟩
  · rw [← hnotifier]
    rfl
  · apply hrecords.isHistory hquiet.columns hquiet.notices

theorem tells_settle (hquiet : g.model.IsQuiet) {a : Answer Unit α σ (BuiltIn α)}
    (hrecords : g.model.Records a.grid.model) (hnotifier : a.grid.notifier = g.notifier) :
  g.Tells (settle a).grid
  := by
  obtain ⟨cell, relaid, h⟩ := settle_eq_flush a
  rw [h]
  exact tells_flush hquiet (hrecords.trans (.of_eq rfl rfl)) hnotifier

omit [Pixel α] [DataSource σ] in
/-- Where nothing has happened to the columns and the notices there is nothing to tell. -/
theorem Tells.of_eq (hquiet : g.model.IsQuiet) (hcolumns : g'.model.columns = g.model.columns)
    (hnotices : g'.model.notices = g.model.notices) (hnotifier : g'.notifier = g.notifier) :
  g.Tells g'
  := by
  constructor
  case quiet => exact ⟨hcolumns ▸ hquiet.columns, hnotices ▸ hquiet.notices⟩
  case history =>
    refine ⟨[], ?_, ?_⟩
    · rw [hnotifier, Notifier.tell_nil]
    · rw [hcolumns]
      rfl

/-- A call tells of all that comes of it, whatever it gives back. -/
theorem tells_perform (hquiet : g.model.IsQuiet) (c : Call α σ) :
  g.Tells (g.perform c).grid
  := by
  have hstart : g.model.Records g.model := .of_eq rfl rfl
  cases hc : c.change? with
  | some f =>
    rw [perform_of_change? hc]
    apply tells_settle hquiet (Call.records_change? hc g.model) rfl
  | none =>
    cases c with
    | setClock now => exact .of_eq hquiet rfl rfl rfl
    | pointer kind point button modifiers =>
      apply tells_settle hquiet _ rfl
      apply (Pipeline.keeps_records g.model).dispatch hstart
    | key kind event =>
      apply tells_settle hquiet _ rfl
      apply (Pipeline.keeps_records g.model).dispatch hstart
    | tick now =>
      apply tells_settle hquiet _ rfl
      apply (Pipeline.keeps_records g.model).tick hstart
    | load data schema =>
      change g.Tells { g with model := g.model.load data schema }.flush
      exact tells_flush hquiet (g.model.records_load data schema) rfl
    | setValue x y value =>
      cases hset : g.setValue? x y value with
      | none =>
        simp only [perform, hset]
        exact .of_eq hquiet rfl rfl rfl
      | some g' =>
        simp only [perform, hset]
        obtain ⟨column, row, rfl⟩ := eq_of_setValue? hset
        exact .of_eq hquiet rfl rfl rfl
    | _ => cases hc

end Grid

/-! ### What a host does -/

/-- One thing that a host does, be it to the grid, to its listeners or to its features. -/
inductive HostStep (α σ : Type) where
  | call (c : Call α σ)
  | subscribe
  | unsubscribe (listener : Nat)
  | arrange (pipeline : Pipeline (BuiltIn α))

namespace Grid

/-- The grid after one step of the host, whatever that gives back. -/
def follow (g : Grid α σ (BuiltIn α)) : HostStep α σ → Grid α σ (BuiltIn α)
  | .call c => (g.perform c).grid
  | .subscribe => g.subscribe.2
  | .unsubscribe listener => g.unsubscribe listener
  | .arrange pipeline => { g with pipeline := pipeline }

/-- The grid after some steps of the host. -/
def followAll (g : Grid α σ (BuiltIn α)) (steps : List (HostStep α σ)) : Grid α σ (BuiltIn α) :=
  steps.foldl follow g

omit [Pixel α] [DataSource σ] in
/-- A listener that has heard of the order since it was `first` knows what it is now. -/
structure IsMirrored (first : List ColumnId) (listener : Nat) (g : Grid α σ (BuiltIn α)) :
    Prop where
  quiet : g.model.IsQuiet
  reaches : g.notifier.Reaches listener
  history :
    IsHistory first (orderChanges (g.notifier.heard listener)) g.model.columns.shown

variable {first : List ColumnId} {listener : Nat} {g : Grid α σ (BuiltIn α)}

theorem IsMirrored.follow (h : g.IsMirrored first listener) {step : HostStep α σ}
    (hstep : step ≠ .unsubscribe listener) :
  (g.follow step).IsMirrored first listener
  := by
  cases step with
  | call c =>
    obtain ⟨hquiet, told, hnotifier, hhistory⟩ := tells_perform h.quiet c
    constructor
    case quiet => apply hquiet
    case reaches =>
      rw [Grid.follow, hnotifier]
      apply h.reaches.tell
    case history =>
      rw [Grid.follow, hnotifier, h.reaches.heard_tell, orderChanges_append]
      apply h.history.append hhistory
  | subscribe => exact ⟨h.quiet, h.reaches.subscribe, h.history⟩
  | unsubscribe other =>
    have hother : other ≠ listener := by
      rintro rfl
      apply hstep rfl
    exact ⟨h.quiet, h.reaches.unsubscribe hother, h.history⟩
  | arrange pipeline => exact ⟨h.quiet, h.reaches, h.history⟩

theorem IsMirrored.followAll (h : g.IsMirrored first listener) {steps : List (HostStep α σ)}
    (hsteps : .unsubscribe listener ∉ steps) :
  (g.followAll steps).IsMirrored first listener
  := by
  apply List.foldlRecOn steps Grid.follow h
  intro g hg step hstep
  apply hg.follow
  rintro rfl
  apply hsteps hstep

/-- What one who listens from the start hears of the order is its history: it starts from the order
of the new grid, no change is left out, and it ends with the order that the grid has when a call
returns.  By then nothing waits to be told. -/
theorem isHistory_heard (data : σ) (schema : List ColumnSchema) (config : Config α)
    (p : Pipeline (BuiltIn α)) {steps : List (HostStep α σ)}
    (hsteps : .unsubscribe (ofPipeline data schema config p).subscribe.1 ∉ steps) :
  let g := ofPipeline data schema config p
  let g' := g.subscribe.2.followAll steps
  IsHistory g.model.columns.shown (orderChanges (g'.notifier.heard g.subscribe.1))
      g'.model.columns.shown
    ∧ g'.model.columns.notices = [] ∧ g'.model.notices = []
  := by
  intro g g'
  have hstart : g.subscribe.2.IsMirrored g.model.columns.shown g.subscribe.1 :=
    ⟨⟨rfl, rfl⟩, Notifier.reaches_subscribe_empty, rfl⟩
  have h := hstart.followAll hsteps
  exact ⟨h.history, h.quiet.columns, h.quiet.notices⟩

/-- A column is moved, taken off the grid and shown again, while another listener comes and goes and
the features are replaced. -/
theorem isHistory_heard_moved :
  let g := ofPipeline (α := Rat) (Table.generate 3 1 fun x y => .text (toString (x + y)))
    (ColumnSchema.ofNames ["a", "b", "c"]) Config.default (Pipeline.ofFeatures [])
  let steps : List (HostStep Rat Table) :=
    [.call (.moveColumns 0 1 3), .subscribe, .call (.hideColumns .shown [0]), .unsubscribe 1,
      .arrange (Pipeline.ofFeatures [.hover]),
      .call (.showColumns .all [1] .atEnd false)]
  let g' := g.subscribe.2.followAll steps
  .unsubscribe g.subscribe.1 ∉ steps
    ∧ orderChanges (g'.notifier.heard g.subscribe.1)
      = [([.data 0, .data 1, .data 2], [.data 1, .data 2, .data 0]),
        ([.data 1, .data 2, .data 0], [.data 2, .data 0]),
        ([.data 2, .data 0], [.data 2, .data 0, .data 1])]
    ∧ IsHistory g.model.columns.shown (orderChanges (g'.notifier.heard g.subscribe.1))
        g'.model.columns.shown
      ∧ g'.model.columns.notices = [] ∧ g'.model.notices = []
  := by
  intro g steps g'
  have hsteps : .unsubscribe g.subscribe.1 ∉ steps := by
    simp [steps, g, subscribe, ofPipeline, Notifier.subscribe, Notifier.empty]
  refine ⟨hsteps, by cbv, isHistory_heard _ _ _ _ hsteps⟩

end Grid

end DataGrid
