import DataGrid.Proofs.Grid.Coherence

/-!
# Grids that a host can come to have

A grid is reachable when it comes from a new one, with any features of this library, by calls, by
other listeners and by changes of the model that leave it coherent.  In a reachable grid the columns
are placed and no timer that waits has a number that is yet to be given out.
-/

namespace DataGrid

variable {α σ : Type} [Pixel α] [DataSource σ]

namespace Grid

/-- What a host can do to a new grid, in any order. -/
inductive IsReachable : Grid α σ (BuiltIn α) → Prop where
  | new (data : σ) (schema : List ColumnSchema) (config : Config α) {names : List String}
    {p : Pipeline (BuiltIn α)} (h : Pipeline.ofNames names = .ok p) :
    IsReachable (ofPipeline data schema config p)
  | perform {g : Grid α σ (BuiltIn α)} (c : Call α σ) :
    IsReachable g → IsReachable (g.perform c).grid
  | listen {g : Grid α σ (BuiltIn α)} (notifier : Notifier α) :
    IsReachable g → IsReachable { g with notifier := notifier }
  /-- Whoever changes the model lays the grid out anew. -/
  | edit {g : Grid α σ (BuiltIn α)} (m : Model α σ) (hm : m.IsCoherent) :
    IsReachable g → IsReachable { g with model := m }

/-- Timers get their numbers from the pipeline. -/
theorem keeps_isNumbered :
  Keeps (α := α) (σ := σ) fun (p : Pipeline (BuiltIn α)) _ => p.timers.IsNumbered
  := by
  constructor
  · constructor
    · intro p m index f input now h _
      apply Pipeline.isNumbered_grant
      apply h.extends (f.advances_handle input (p.turn m index now)).timers
    · intro p m index f token now h _
      apply Pipeline.isNumbered_grant
      apply h.extends (f.advances_fire token (p.turn m index now)).timers
    · intro p m h
      apply h
    · intro p m now h
      apply h.takeDue
  · intro p m h
    apply h
  · intro p m h
    apply h

theorem IsReachable.isNumbered {g : Grid α σ (BuiltIn α)} (h : g.IsReachable) :
  g.pipeline.timers.IsNumbered
  := by
  induction h with
  | new data schema config hp =>
    rw [(Pipeline.names_ofNames hp).2]
    intro t ht
    cases ht
  | perform c _ ih =>
    apply keeps_isNumbered.perform
    · intro c f p m _ hp
      apply hp
    · intro data schema p m hp
      apply hp
    · intro x y value p m hp
      apply hp
    · apply ih
  | listen notifier _ ih => apply ih
  | edit m hm _ ih => apply ih

theorem IsReachable.hasPlacedColumns {g : Grid α σ (BuiltIn α)} (h : g.IsReachable) :
  g.model.toFrame.HasPlacedColumns
  := by
  induction h with
  | new data schema config hp =>
    apply (Model.isCoherent_relayout _).hasPlacedColumns
  | perform c _ ih =>
    apply (keeps_of_tracks Model.Tracks.hasPlacedColumns).perform
    · intro c f _ m hc hm
      apply (Call.tracks_change? hc m).hasPlacedColumns hm
    · intro data schema _ m hm
      apply (m.tracks_load data schema).hasPlacedColumns hm
    · intro x y value _ m hm
      apply hm
    · apply ih
  | listen notifier _ ih => apply ih
  | edit m hm _ _ => apply hm.hasPlacedColumns

/-- A reachable grid is coherent if writing a value does not change the number of rows. -/
theorem IsReachable.isCoherent
    (hrows : ∀ (data : σ) (x y : Nat) (value : CellValue),
      DataSource.rowCount (DataSource.setValue data x y value) = DataSource.rowCount data)
    {g : Grid α σ (BuiltIn α)} (h : g.IsReachable) :
  g.model.IsCoherent
  := by
  induction h with
  | new data schema config hp => apply isCoherent_ofPipeline
  | perform c _ ih => apply isCoherent_perform hrows c ih
  | listen notifier _ ih => apply ih
  | edit m hm _ _ => apply hm

theorem IsReachable.run {g : Grid α σ (BuiltIn α)} (h : g.IsReachable) (calls : List (Call α σ)) :
  (g.run calls).IsReachable
  := by
  induction calls generalizing g with
  | nil => apply h
  | cons c rest ih => apply ih (h.perform c)

end Grid

end DataGrid
