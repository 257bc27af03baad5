import DataGrid.Proofs.Grid.History
import DataGrid.Proofs.Model.Announcements

/-!
# What a listener hears of fixed counts and of the selection

A call tells how many columns and rows were fixed before and are fixed now, and that the selection is
another one, unless it loads a table or restores a snapshot (`Grid.heard_explains_iff`).
-/

namespace DataGrid

variable {α σ : Type} [Pixel α] [DataSource σ]

/-- Whether a call that is made of a model tells in full what becomes of the fixed counts and of the
selection.  A table that is loaded takes the selection away without a word, and a snapshot that is
restored takes the selection away and sets the counts without a word. -/
def Call.TellsCounts (m : Model α σ) : Call α σ → Prop
  | .load _ _ => m.selection.ranges = []
  | .restore s =>
    (∀ f : Fixed, f.count (m.restore s).config = f.count m.config) ∧ m.selection.ranges = []
  | _ => True

/-- What a host changes is announced if it is no snapshot that is restored. -/
theorem Call.announces_change? {c : Call α σ} {f : Model α σ → Model α σ} (h : c.change? = some f)
    (hc : ∀ s, c ≠ .restore s) (m : Model α σ) :
  m.Announces (f m)
  := by
  cases c with
  | setClock | pointer | key | tick | load | setValue => cases h
  | restore snapshot => exact absurd rfl (hc snapshot)
  | resizeViewport width height =>
    obtain rfl := Option.some.inj h
    exact .of_eq rfl rfl rfl rfl
  | scrollTo left top =>
    obtain rfl := Option.some.inj h
    exact .of_eq rfl rfl rfl rfl
  | scrollBy columns rows =>
    obtain rfl := Option.some.inj h
    apply (Model.Scrolls.scrollBy m columns rows).announces
  | setFixedColumns count =>
    obtain rfl := Option.some.inj h
    apply Model.announces_setFixedColumns
  | setFixedRows count =>
    obtain rfl := Option.some.inj h
    apply Model.announces_setFixedRows
  | moveColumns start count target =>
    obtain rfl := Option.some.inj h
    apply Model.announces_moveColumns
  | showColumns source indexes placement duplicates =>
    obtain rfl := Option.some.inj h
    apply Model.announces_showColumns
  | hideColumns source indexes =>
    obtain rfl := Option.some.inj h
    apply Model.announces_showColumns

/-- Features and their timers announce what they do. -/
theorem Pipeline.keeps_announces (m : Model α σ) :
  Pipeline.Keeps (φ := BuiltIn α) (Input α) fun _ m' => m.Announces m'
  := by
  constructor
  · intro p m' index f input now h _
    apply h.trans (f.acts_handle input (p.turn m' index now)).announces
  · intro p m' index f token now h _
    apply h.trans (f.roams_fire token (p.turn m' index now)).announces
  · intro p m' h
    apply h
  · intro p m' now h
    apply h

namespace Grid

variable {g g' : Grid α σ (BuiltIn α)}

omit [Pixel α] [DataSource σ] in
/-- What was told on the way from `g` to `g'` explains the fixed counts and the selection if and only
if something else holds. -/
def ExplainsIff (g g' : Grid α σ (BuiltIn α)) (condition : Prop) : Prop :=
  ∃ told, g'.notifier = g.notifier.tell told
    ∧ (g.model.IsExplained told g'.model ↔ condition)

omit [Pixel α] [DataSource σ] in
/-- Where neither the counts nor the selection change, nothing need be told of them. -/
theorem explainsIff_of_eq (hconfig : g'.model.config = g.model.config)
    (hselection : g'.model.selection = g.model.selection) (hnotifier : g'.notifier = g.notifier) :
  g.ExplainsIff g' True
  := by
  refine ⟨[], ?_, ?_⟩
  · rw [hnotifier, Notifier.tell_nil]
  · rw [iff_true, Model.isExplained_congr hconfig hselection]
    exact ⟨fun f hne => absurd rfl hne, fun hne => absurd rfl hne⟩

omit [Pixel α] [DataSource σ] in
/-- Listeners are told what the model has taken down. -/
theorem explainsIff_flush {condition : Prop} (hnotifier : g'.notifier = g.notifier)
    (h : g.model.IsExplained g'.model.takeNotices.1 g'.model ↔ condition) :
  g.ExplainsIff g'.flush condition
  := by
  refine ⟨g'.model.takeNotices.1, ?_, ?_⟩
  · rw [← hnotifier]
    rfl
  · rw [← h]
    exact Model.isExplained_congr rfl rfl

theorem explainsIff_settle {a : Answer Unit α σ (BuiltIn α)} {condition : Prop}
    (hnotifier : a.grid.notifier = g.notifier)
    (h : g.model.IsExplained a.grid.model.takeNotices.1 a.grid.model ↔ condition) :
  g.ExplainsIff (settle a).grid condition
  := by
  obtain ⟨cell, relaid, hsettle⟩ := settle_eq_flush a
  rw [hsettle]
  apply explainsIff_flush
  · apply hnotifier
  · rw [← h]
    exact Model.isExplained_congr rfl rfl

/-- What is announced is told. -/
theorem explainsIff_announced (hquiet : g.model.IsQuiet) {a : Answer Unit α σ (BuiltIn α)}
    (hnotifier : a.grid.notifier = g.notifier) (h : g.model.Announces a.grid.model) :
  g.ExplainsIff (settle a).grid True
  := by
  apply explainsIff_settle hnotifier
  rw [iff_true]
  apply h.isExplained hquiet.columns hquiet.notices

/-- A call tells in full what becomes of the fixed counts and of the selection unless it is one of
those that do not. -/
theorem explainsIff_perform (hquiet : g.model.IsQuiet) (c : Call α σ) :
  g.ExplainsIff (g.perform c).grid (c.TellsCounts g.model)
  := by
  have hstart : g.model.Announces g.model := .of_eq rfl rfl rfl rfl
  have announced {f : Model α σ → Model α σ} (hc : c.change? = some f)
      (hrestore : ∀ s, c ≠ .restore s) : g.ExplainsIff (g.perform c).grid True := by
    rw [perform_of_change? hc]
    apply explainsIff_announced hquiet rfl (Call.announces_change? hc hrestore g.model)
  cases c with
  | setClock now => exact explainsIff_of_eq rfl rfl rfl
  | pointer kind point button modifiers =>
    apply explainsIff_announced hquiet rfl
    apply (Pipeline.keeps_announces g.model).dispatch hstart
  | key kind event =>
    apply explainsIff_announced hquiet rfl
    apply (Pipeline.keeps_announces g.model).dispatch hstart
  | tick now =>
    apply explainsIff_announced hquiet rfl
    apply (Pipeline.keeps_announces g.model).tick hstart
  | load data schema =>
    change g.ExplainsIff ({ g with model := g.model.load data schema } : Grid α σ _).flush _
    exact explainsIff_flush rfl
      (Model.isExplained_load_iff hquiet.columns hquiet.notices data schema)
  | restore snapshot =>
    exact explainsIff_settle rfl
      (Model.isExplained_restore_iff hquiet.columns hquiet.notices snapshot)
  | setValue x y value =>
    cases hset : g.setValue? x y value with
    | none =>
      simp only [perform, hset]
      exact explainsIff_of_eq rfl rfl rfl
    | some g' =>
      simp only [perform, hset]
      obtain ⟨column, row, rfl⟩ := eq_of_setValue? hset
      exact explainsIff_of_eq rfl rfl rfl
  | _ =>
    apply announced rfl
    rintro s ⟨⟩

/-- Whatever has been done to a new grid, its listeners and its features, one who listens from the
start hears in each call notices that explain what becomes of the fixed counts and of the selection,
unless the call loads a table while something is selected, or restores a snapshot while something is
selected or with other fixed counts. -/
theorem heard_explains_iff (data : σ) (schema : List ColumnSchema) (config : Config α)
    (p : Pipeline (BuiltIn α)) {steps : List (HostStep α σ)}
    (hsteps : .unsubscribe (ofPipeline data schema config p).subscribe.1 ∉ steps)
    (c : Call α σ) :
  let start := ofPipeline data schema config p
  let g := start.subscribe.2.followAll steps
  let g' := (g.perform c).grid
  ∃ told, g'.notifier.heard start.subscribe.1 = g.notifier.heard start.subscribe.1 ++ told
    ∧ (g.model.IsExplained told g'.model ↔ c.TellsCounts g.model)
  := by
  intro start g g'
  have hstart : start.subscribe.2.IsMirrored start.model.columns.shown start.subscribe.1 :=
    ⟨⟨rfl, rfl⟩, Notifier.reaches_subscribe_empty, rfl⟩
  have hg := hstart.followAll hsteps
  obtain ⟨told, hnotifier, hexplains⟩ := explainsIff_perform hg.quiet c
  refine ⟨told, ?_, hexplains⟩
  change (g.perform c).grid.notifier.heard _ = _
  rw [hnotifier, hg.reaches.heard_tell]

/-- Two columns are fixed and one of them is taken off the grid, so that only one stays fixed. -/
theorem heard_explains_iff_hidden :
  let start := ofPipeline (α := Rat) (Table.generate 2 1 fun x y => .text (toString (x + y)))
    (ColumnSchema.ofNames ["a", "b"]) Config.default (Pipeline.ofFeatures BuiltIn.all)
  let steps : List (HostStep Rat Table) := [.call (.setFixedColumns 2), .subscribe]
  let c : Call Rat Table := .hideColumns .shown [0]
  let g := start.subscribe.2.followAll steps
  let g' := (g.perform c).grid
  .unsubscribe start.subscribe.1 ∉ steps
    ∧ g.notifier.heard start.subscribe.1 = [.fixedColumnsChanged 0 2]
    ∧ g'.notifier.heard start.subscribe.1
      = [.fixedColumnsChanged 0 2, .shownColumnsChanged [.data 0, .data 1] [.data 1],
        .fixedColumnsChanged 2 1]
    ∧ ∃ told, g'.notifier.heard start.subscribe.1 = g.notifier.heard start.subscribe.1 ++ told
      ∧ (g.model.IsExplained told g'.model ↔ c.TellsCounts g.model)
  := by
  intro start steps c g g'
  have hsteps : .unsubscribe start.subscribe.1 ∉ steps := by
    simp [steps]
  refine ⟨hsteps, ?_, ?_, heard_explains_iff _ _ _ _ hsteps c⟩
  · simp only [g, steps, start]
    cbv
  · simp only [g', g, c, steps, start]
    cbv

/-- A snapshot is restored in which no column is fixed, and nobody hears that one was. -/
theorem not_explained_restore :
  let start := ofPipeline (α := Rat) (Table.generate 3 3 fun x y => .text (toString (x + y)))
    (ColumnSchema.ofNames ["A", "B", "C"]) Config.default (Pipeline.ofFeatures BuiltIn.all)
  let g := start.subscribe.2.followAll [.call (.setFixedColumns 1)]
  let g' := (g.perform (.restore ⟨[0, 1, 2], [], 0, 0⟩)).grid
  g.model.config.fixedColumns = 1 ∧ g'.model.config.fixedColumns = 0
    ∧ g'.notifier.heard start.subscribe.1 = g.notifier.heard start.subscribe.1
    ∧ ¬ ∃ told, g'.notifier.heard start.subscribe.1 = g.notifier.heard start.subscribe.1 ++ told
      ∧ g.model.IsExplained told g'.model
  := by
  intro start g g'
  have hbefore : g.model.config.fixedColumns = 1 := by
    simp only [g, start]
    cbv
  have hafter : g'.model.config.fixedColumns = 0 := by
    simp only [g', g, start]
    cbv
  have hheard : g'.notifier.heard start.subscribe.1 = g.notifier.heard start.subscribe.1 := by
    simp only [g', g, start]
    cbv
  refine ⟨hbefore, hafter, hheard, ?_⟩
  rintro ⟨told, htold, hexplained⟩
  rw [hheard, List.self_eq_append_right] at htold
  subst htold
  have hchanged : Fixed.columns.count g'.model.config ≠ Fixed.columns.count g.model.config := by
    rw [Fixed.count, Fixed.count, hbefore, hafter]
    decide
  apply hchanged (hexplained.counts .columns hchanged)

end Grid

end DataGrid
