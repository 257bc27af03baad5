import DataGrid.Proofs.Feature.Names
import DataGrid.Proofs.Grid.ColumnDrag
import DataGrid.Proofs.Grid.Drawing
import DataGrid.Proofs.Grid.Gestures
import DataGrid.Proofs.Grid.History
import DataGrid.Proofs.Pipeline.Undoing

/-!
# Escape discards a drag

A press begins a drag, drags and ticks follow, and `Escape` ends it.  With the default features it
leaves nothing behind: order, columns and settings are as before the press, nothing is drawn, and
listeners have not been told of any arrangement.  What is left of the gesture, its release included,
arranges nothing either (`Grid.isDiscarded_of_escape`).
-/

namespace DataGrid

variable {α σ : Type} [Pixel α] [DataSource σ]

namespace Grid

/-- What a host can do to a new grid of the default features, in any order. -/
inductive IsStandard : Grid α σ (BuiltIn α) → Prop where
  | new (data : σ) (schema : List ColumnSchema) (config : Config α)
    {p : Pipeline (BuiltIn α)} (h : Pipeline.ofNames defaultFeatures = .ok p) :
    IsStandard (ofPipeline data schema config p)
  | perform {g : Grid α σ (BuiltIn α)} (c : Call α σ) :
    IsStandard g → IsStandard (g.perform c).grid
  | listen {g : Grid α σ (BuiltIn α)} (notifier : Notifier α) :
    IsStandard g → IsStandard { g with notifier := notifier }
  /-- Whoever changes the model leaves what is drawn to the features. -/
  | edit {g : Grid α σ (BuiltIn α)} (m : Model α σ) (hm : m.overlays = g.model.overlays) :
    IsStandard g → IsStandard { g with model := m }

/-- Nothing is left in `g'` of a drag that began in `g`. -/
structure IsDiscarded (g g' : Grid α σ (BuiltIn α)) : Prop where
  shown_eq : g'.model.columns.shown = g.model.columns.shown
  column?_eq : ∀ id, g'.model.columns.column? id = g.model.columns.column? id
  config_eq : g'.model.config = g.model.config
  overlays_eq : g'.model.overlays = .none
  /-- What waited before the drag has been told, and after that nothing about an arrangement. -/
  told : ∃ told, g'.notifier = g.flush.notifier.tell told ∧ ∀ n ∈ told, n.isArrangement = false

/-- What has come of a drag that began in `g` can be taken back. -/
structure IsRevocable (g g' : Grid α σ (BuiltIn α)) : Prop where
  columns : g'.pipeline.IsRevocable g.model.columns g'.model
  shown_eq : g'.model.columns.shown = g.model.columns.shown
  config_eq : g'.model.config = g.model.config
  told : ∃ told, g'.flush.notifier = g.flush.notifier.tell told
    ∧ ∀ n ∈ told, n.isArrangement = false

variable {g g' : Grid α σ (BuiltIn α)}

/-! ### Standard grids -/

theorem keeps_names :
  Keeps (α := α) (σ := σ) fun (p : Pipeline (BuiltIn α)) _ =>
    p.features.map BuiltIn.name = defaultFeatures
  := by
  constructor
  · constructor
    · intro p m i f input now h hf
      apply (Pipeline.names_after hf (f.name_handle input _)).trans h
    · intro p m i f token now h hf
      apply (Pipeline.names_after hf (f.name_fire token _)).trans h
    · intro p m h
      apply h
    · intro p m now h
      apply h
  · intro p m h
    apply h
  · intro p m h
    apply h

theorem names_perform (h : g.pipeline.features.map BuiltIn.name = defaultFeatures)
    (c : Call α σ) :
  (g.perform c).grid.pipeline.features.map BuiltIn.name = defaultFeatures
  := by
  apply keeps_names.perform
  · intro c f p m _ hp
    apply hp
  · intro data schema p m hp
    apply hp
  · intro x y value p m hp
    apply hp
  · apply h

theorem IsStandard.names (h : g.IsStandard) :
  g.pipeline.features.map BuiltIn.name = defaultFeatures
  := by
  induction h with
  | new data schema config hp => apply (Pipeline.names_ofNames hp).1
  | perform c _ ih => apply names_perform ih c
  | listen notifier _ ih => apply ih
  | edit m hm _ ih => apply ih

theorem IsStandard.isDrawn (h : g.IsStandard) :
  g.pipeline.IsDrawn g.model
  := by
  induction h with
  | new data schema config hp =>
    intro part
    exact .inl (Overlays.lacks_none part)
  | perform c _ ih => apply isDrawn_perform ih c
  | listen notifier _ ih => apply ih
  | edit m hm _ ih => apply ih.congr (.inl hm)

theorem IsStandard.isClean (h : g.IsStandard)
    (hrest : ∀ f ∈ g.pipeline.features, f.isDragging = false) :
  g.pipeline.IsClean g.model
  := ⟨hrest, h.isDrawn.overlays_eq hrest⟩

/-! ### One call -/

namespace IsRevocable

omit [DataSource σ] in
/-- Where no feature drags there is nothing to take back. -/
theorem refl (hnames : g.pipeline.features.map BuiltIn.name = defaultFeatures)
    (hrest : ∀ f ∈ g.pipeline.features, f.isDragging = false) :
  g.IsRevocable g
  := by
  refine ⟨⟨hnames, ?_⟩, rfl, rfl, [], ?_, ?_⟩
  · intro f hf _ id
    rw [f.putBack_eq_self (f.resizeDrag?_eq_none (f.isArranging_eq_false (hrest f hf)))]
  · rw [Notifier.tell_nil]
  · intro n hn
    cases hn

/-- What follows an event changes nothing but that listeners are told. -/
theorem settle (h : g.IsRevocable g') {a : Answer Unit α σ (BuiltIn α)}
    (hcolumns : a.grid.pipeline.IsRevocable g.model.columns a.grid.model)
    (hspares : g'.model.Spares a.grid.model) (hnotifier : a.grid.notifier = g'.notifier) :
  g.IsRevocable (Grid.settle a).grid
  := by
  obtain ⟨cell, relaid, hsettle⟩ := settle_eq_flush a
  obtain ⟨told, htold, hnone⟩ := h.told
  obtain ⟨told', htold', hnone'⟩ := hspares.told
  rw [hsettle]
  constructor
  case columns =>
    apply hcolumns.congr
    intro id
    cases id <;> rfl
  case shown_eq => apply hspares.shown_eq.trans h.shown_eq
  case config_eq => apply hspares.config_eq.trans h.config_eq
  case told =>
    refine ⟨told ++ told', ?_, ?_⟩
    · change (a.grid.notifier.tell a.grid.model.takeNotices.1).tell [] = _
      rw [Notifier.tell_nil, hnotifier, htold', Notifier.tell_append, Notifier.tell_append,
        ← htold]
      rfl
    · intro n hn
      obtain hn | hn := List.mem_append.mp hn
      · apply hnone n hn
      · apply hnone' n hn

/-- An input that neither begins nor ends a drag that arranges anything. -/
theorem offer (h : g.IsRevocable g') {input : Input α} (hpress : input.isPress = false)
    (hrelease : input.isRelease = true → g'.pipeline.IsDisarmed g'.model)
    (hdouble : input.isDoubleClick = false) :
  g.IsRevocable (Grid.settle (g'.offer input)).grid
  := by
  obtain ⟨hcolumns, hspares⟩ := h.columns.dispatch hpress hrelease hdouble g'.now
  apply h.settle hcolumns hspares rfl

theorem perform_press (h : g.IsRevocable g) (hclean : g.pipeline.IsClean g.model)
    (hlimits : ∀ id d, g.model.columns.column? id = some d → d.IsWithinLimits) (point : Point α)
    (button : Button) (modifiers : Modifiers) :
  g.IsRevocable (g.perform (.pointer .down point button modifiers)).grid
  := by
  obtain ⟨hcolumns, hspares⟩ := h.columns.dispatch_press hclean hlimits g.now
    (g.pointerEvent point button modifiers)
  apply h.settle hcolumns hspares rfl

theorem perform_between (h : g.IsRevocable g') {c : Call α σ} (hc : c.isBetween = true) :
  g.IsRevocable (g'.perform c).grid
  := by
  cases c with
  | setClock now => exact ⟨h.columns, h.shown_eq, h.config_eq, h.told⟩
  | tick now =>
    obtain ⟨hcolumns, hspares⟩ := h.columns.tick now
    apply h.settle hcolumns hspares rfl
  | pointer kind point button modifiers =>
    cases kind with
    | drag =>
      apply h.offer rfl _ rfl
      intro hrelease
      cases hrelease
    | _ => cases hc
  | _ => cases hc

end IsRevocable

theorem isDisarmed_perform (h : g.pipeline.IsDisarmed g.model) {c : Call α σ}
    (hc : c.isPress = false) :
  (g.perform c).grid.pipeline.IsDisarmed (g.perform c).grid.model
  := by
  apply keeps_of_effect (M := Pipeline.IsDisarmed) _ _ Pipeline.IsDisarmed.congr hc h
  · intro p m input now hpress h
    apply h.dispatch hpress now
  · intro p m now h
    apply h.tick now

theorem isHolding_perform (h : g.pipeline.IsHolding) {c : Call α σ} (hc : c.isBetween = true) :
  (g.perform c).grid.pipeline.IsHolding
  := by
  cases c with
  | setClock now => apply h
  | tick now =>
    rw [(g.perform_tick_eq now).1]
    apply h.tick
  | pointer kind point button modifiers =>
    cases kind with
    | drag =>
      rw [(g.perform_pointer_eq .drag point button modifiers).1]
      apply h.dispatch_drag
    | _ => cases hc
  | _ => cases hc

omit [Pixel α] [DataSource σ] in
theorem isPress_of_isBetween {c : Call α σ} (h : c.isBetween = true) :
  c.isPress = false
  := by
  cases c with
  | pointer kind => cases kind <;> first | rfl | cases h
  | _ => rfl

/-! ### A whole drag -/

/-- In the middle of a drag that began in `g`; `held` tells whether it is one of columns. -/
structure IsUnderWay (g : Grid α σ (BuiltIn α)) (held : Prop) (g' : Grid α σ (BuiltIn α)) :
    Prop where
  revocable : g.IsRevocable g'
  engaged : g'.pipeline.IsEngaged g'.model
  holding : held → g'.pipeline.IsHolding

/-- After a drag that began in `g` has been ended by `Escape`. -/
structure IsOver (g g' : Grid α σ (BuiltIn α)) : Prop where
  revocable : g.IsRevocable g'
  disarmed : g'.pipeline.IsDisarmed g'.model
  quiet : g'.model.IsQuiet

variable {held : Prop}

theorem IsUnderWay.run (h : g.IsUnderWay held g') {moves : List (Call α σ)}
    (hmoves : ∀ c ∈ moves, c.isBetween = true) :
  g.IsUnderWay held (g'.run moves)
  := by
  apply List.foldlRecOn moves _ h
  intro g' h c hc
  have hbetween := hmoves c hc
  constructor
  case revocable => apply h.revocable.perform_between hbetween
  case engaged => apply isEngaged_perform h.engaged (isPress_of_isBetween hbetween)
  case holding =>
    intro hheld
    apply isHolding_perform (h.holding hheld) hbetween

/-- `Escape` ends the drag, and all features are attached if columns were held. -/
theorem IsUnderWay.perform_escape (h : g.IsUnderWay held g') {e : KeyEvent}
    (he : e.key = "Escape") :
  g.IsOver (g'.perform (.key .down e)).grid
    ∧ (held → (g'.perform (.key .down e)).grid.pipeline.isDetached = false)
  := by
  obtain ⟨hpipeline, hmodel⟩ := settle_eq (g'.offer (.key .down e))
  obtain ⟨hdisarmed, hattached⟩ :=
    h.engaged.dispatch_escape h.revocable.columns.names he g'.now
  constructor
  · constructor
    case revocable =>
      apply h.revocable.offer rfl _ rfl
      intro hrelease
      cases hrelease
    case disarmed =>
      constructor
      case rest =>
        change ∀ f ∈ (Grid.settle _).grid.pipeline.features, _
        rw [hpipeline]
        apply hdisarmed.rest
      case overlays => apply (Model.overlays_eq_of_still_eq hmodel).trans hdisarmed.overlays
    case quiet =>
      obtain ⟨cell, relaid, hsettle⟩ := settle_eq_flush (g'.offer (.key .down e))
      change (Grid.settle _).grid.model.IsQuiet
      rw [hsettle]
      exact ⟨rfl, rfl⟩
  · intro hheld
    change (Grid.settle _).grid.pipeline.detachedAt.isSome = false
    rw [hpipeline]
    change (Pipeline.dispatch _ _ _ _).pipeline.detachedAt.isSome = false
    rw [hattached (h.holding hheld)]
    rfl

theorem IsOver.run (h : g.IsOver g') {further : List (Call α σ)}
    (hfurther : ∀ c ∈ further, c.isBetween = true) :
  g.IsOver (g'.run further)
  := by
  apply List.foldlRecOn further _ h
  intro g' h c hc
  have hbetween := hfurther c hc
  constructor
  case revocable => apply h.revocable.perform_between hbetween
  case disarmed => apply isDisarmed_perform h.disarmed (isPress_of_isBetween hbetween)
  case quiet => apply (tells_perform h.quiet c).quiet

theorem IsOver.perform_up (h : g.IsOver g') (point : Point α) (button : Button)
    (modifiers : Modifiers) :
  g.IsOver (g'.perform (.pointer .up point button modifiers)).grid
  := by
  constructor
  case revocable => apply h.revocable.offer rfl (fun _ => h.disarmed) rfl
  case disarmed => apply isDisarmed_perform h.disarmed rfl
  case quiet => apply (tells_perform h.quiet _).quiet

omit [DataSource σ] in
theorem IsOver.isDiscarded (h : g.IsOver g') :
  g.IsDiscarded g'
  := by
  obtain ⟨told, htold, hnone⟩ := h.revocable.told
  constructor
  case shown_eq => apply h.revocable.shown_eq
  case column?_eq => apply h.revocable.columns.column?_of_rest h.disarmed.rest
  case config_eq => apply h.revocable.config_eq
  case overlays_eq => apply h.disarmed.overlays
  case told =>
    refine ⟨told, ?_, hnone⟩
    rw [← htold]
    change g'.notifier = g'.notifier.tell (g'.model.columns.notices ++ g'.model.notices)
    rw [h.quiet.columns, h.quiet.notices, List.nil_append, Notifier.tell_nil]

/-- `Escape` discards a drag completely: nothing of it is left when the key has been answered, nor
at any time until the release, nor after that.  If the drag was one of columns, all features are
attached again at once. -/
theorem isDiscarded_of_escape (hg : g.IsStandard)
    (hrest : ∀ f ∈ g.pipeline.features, f.isDragging = false)
    (hlimits : ∀ id d, g.model.columns.column? id = some d → d.IsWithinLimits)
    (point : Point α) (button : Button) (modifiers : Modifiers)
    {moves : List (Call α σ)} (hmoves : ∀ c ∈ moves, c.isBetween = true)
    {escape : KeyEvent} (hescape : escape.key = "Escape")
    {further : List (Call α σ)} (hfurther : ∀ c ∈ further, c.isBetween = true)
    (point' : Point α) (button' : Button) (modifiers' : Modifiers) :
  let pressed := (g.perform (.pointer .down point button modifiers)).grid
  let escaped := ((pressed.run moves).perform (.key .down escape)).grid
  let released := ((escaped.run further).perform (.pointer .up point' button' modifiers')).grid
  g.IsDiscarded escaped ∧ (∀ n, g.IsDiscarded (escaped.run (further.take n)))
    ∧ g.IsDiscarded released
    ∧ (pressed.columnDrag?.isSome = true → escaped.pipeline.isDetached = false)
  := by
  intro pressed escaped released
  have hclean : g.pipeline.IsClean g.model := hg.isClean hrest
  have hpressed : g.IsUnderWay (pressed.columnDrag?.isSome = true) pressed := by
    constructor
    case revocable =>
      apply (IsRevocable.refl hg.names hrest).perform_press hclean hlimits
    case engaged => apply isEngaged_perform_press hclean rfl
    case holding =>
      intro hheld
      obtain ⟨d, hd⟩ := Option.isSome_iff_exists.mp hheld
      obtain ⟨f, hf, hdrag⟩ := List.exists_of_findSome?_eq_some hd
      exact ⟨f, hf, Option.isSome_of_eq_some hdrag⟩
  obtain ⟨hover, hattached⟩ := (hpressed.run hmoves).perform_escape hescape
  refine ⟨hover.isDiscarded, ?_, ?_, hattached⟩
  · intro n
    apply (hover.run _).isDiscarded
    intro c hc
    apply hfurther c (List.mem_of_mem_take hc)
  · apply ((hover.run hfurther).perform_up _ _ _).isDiscarded

/-- The middle one of three columns is dragged to the right edge, and then it is to stay where it
was. -/
theorem isDiscarded_of_escape_table :
  let g : Grid Rat Table (BuiltIn Rat) :=
    ofPipeline (Table.generate 3 2 fun x y => .text (toString (x + y)))
      (ColumnSchema.ofNames ["a", "b", "c"]) Config.default (.ofFeatures BuiltIn.all)
  let pressed := (g.perform (.pointer .down ⟨150, 5⟩ .primary .none)).grid
  let moves : List (Call Rat Table) := [.pointer .drag ⟨290, 5⟩ .primary .none, .tick 1]
  let escape : KeyEvent := ⟨"Escape", .none⟩
  let escaped := ((pressed.run moves).perform (.key .down escape)).grid
  let further : List (Call Rat Table) := [.pointer .drag ⟨20, 5⟩ .primary .none, .tick 400]
  let released := ((escaped.run further).perform (.pointer .up ⟨20, 5⟩ .primary .none)).grid
  g.IsStandard
    ∧ (∀ f ∈ g.pipeline.features, f.isDragging = false)
    ∧ (∀ id d, g.model.columns.column? id = some d → d.IsWithinLimits)
    ∧ (∀ c ∈ moves, c.isBetween = true) ∧ escape.key = "Escape"
    ∧ (∀ c ∈ further, c.isBetween = true)
    ∧ g.IsDiscarded escaped ∧ (∀ n, g.IsDiscarded (escaped.run (further.take n)))
    ∧ g.IsDiscarded released
    ∧ pressed.columnDrag?.isSome = true ∧ escaped.pipeline.isDetached = false
  := by
  intro g pressed moves escape escaped further released
  have hnames : Pipeline.ofNames defaultFeatures = .ok (.ofFeatures (BuiltIn.all (α := Rat))) := by
    rw [Pipeline.ofNames]
    rfl
  have hg : g.IsStandard := .new _ _ _ hnames
  have hrest : ∀ f ∈ g.pipeline.features, f.isDragging = false := by decide
  have hlimits : ∀ id d, g.model.columns.column? id = some d → d.IsWithinLimits := by
    intro id d hd
    have hnew : (Columns.ofSchema (ColumnSchema.ofNames ["a", "b", "c"]) Config.default).column? id
        = some d := by
      rw [← hd]
      cases id <;> rfl
    apply Columns.isWithinLimits_ofSchema_default _ hnew
  have hmoves : ∀ c ∈ moves, c.isBetween = true := by decide
  have hescape : escape.key = "Escape" := rfl
  have hfurther : ∀ c ∈ further, c.isBetween = true := by decide
  have hheld : pressed.columnDrag?.isSome = true := by cbv
  obtain ⟨hescaped, hbetween, hreleased, hattached⟩ :=
    isDiscarded_of_escape hg hrest hlimits ⟨150, 5⟩ .primary .none hmoves hescape hfurther ⟨20, 5⟩
      .primary .none
  exact ⟨hg, hrest, hlimits, hmoves, hescape, hfurther, hescaped, hbetween, hreleased, hheld,
    hattached hheld⟩

end Grid

end DataGrid
