import DataGrid.Proofs.Feature.Deeds
import DataGrid.Proofs.Feature.Hovering
import DataGrid.Proofs.Grid.Coherence
import DataGrid.Proofs.Grid.Escape

/-!
# Hovering follows the pointer

In a grid of the default features, after whatever calls, the hovered cell is on the screen, and a
pointer that moves hovers over the cell that holds it, if the features have been told of the layout
that is there (`Grid.hovers_of_isOperated`).  A table that has been put in is not told of until the
next call, and if that is a move of the pointer, nothing is hovered after it
(`Grid.hovers_nothing_after_load`).
-/

namespace DataGrid

variable {α σ : Type}

/-- Whether the features have yet to hear of a new layout after a call. -/
def Call.untold (before : Bool) : Call α σ → Bool
  | .load .. => true
  | .setClock _ | .setValue .. => before
  | _ => false

variable [Pixel α] [DataSource σ]

namespace Call

theorem untold_of_change? {c : Call α σ} {f : Model α σ → Model α σ} (h : c.change? = some f)
    (before : Bool) :
  c.untold before = false
  := by
  cases c with
  | setClock | load | setValue => cases h
  | _ => rfl

/-- What the host changes is laid out anew, or nothing changes. -/
theorem relaid_or_eq_of_change? {c : Call α σ} {f : Model α σ → Model α σ}
    (h : c.change? = some f) (m : Model α σ) :
  (f m).relaid = true ∨ f m = m
  := by
  cases c with
  | setClock | pointer | key | tick | load | setValue => cases h
  | setFixedColumns count =>
    obtain rfl := Option.some.inj h
    apply Model.relaid_or_eq_setFixedColumns
  | setFixedRows count =>
    obtain rfl := Option.some.inj h
    apply Model.relaid_or_eq_setFixedRows
  | scrollBy columns rows =>
    obtain rfl := Option.some.inj h
    apply Model.relaid_or_eq_scrollBy
  | moveColumns start count target =>
    obtain rfl := Option.some.inj h
    apply Model.relaid_or_eq_moveColumns
  | _ =>
    obtain rfl := Option.some.inj h
    exact .inl rfl

end Call

/-! ### An input and timers -/

namespace Pipeline

variable {p : Pipeline (BuiltIn α)}

/-- The feature for hovering hears of every input and is the only one that minds it. -/
theorem hovered_dispatch (hnames : p.features.map BuiltIn.name = defaultFeatures)
    (m : Model α σ) (now : Float) (input : Input α) :
  (p.dispatch m now input).model.hovered = input.hovered m.hovered
  := by
  have turn : ∀ {i : Nat} {p : Pipeline (BuiltIn α)} {m' : Model α σ} {f : BuiltIn α},
      p.features.map BuiltIn.name = defaultFeatures →
      (m'.hovered = if i = 0 then m.hovered else input.hovered m.hovered) →
      p.features[i]? = some f →
      (f.handle input (p.turn m' i now)).turn.model.hovered = input.hovered m.hovered := by
    intro i p m' f hnames hbefore hf
    cases i with
    | zero =>
      obtain rfl := BuiltIn.eq_hover_of_name (Option.some.inj (getElem?_name hnames hf)).symm
      rw [BuiltIn.hovered_handle_hover]
      exact congrArg input.hovered hbefore
    | succ i =>
      have hname : f.name ≠ "on_hover" := name_ne_of_ne hnames hf (j := 0) rfl i.succ_ne_zero
      rw [BuiltIn.hovered_handle hname]
      exact hbefore
  apply dispatch_rule
    (C := fun i (p' : Pipeline (BuiltIn α)) (m' : Model α σ) =>
      p'.features.map BuiltIn.name = defaultFeatures
        ∧ m'.hovered = if i = 0 then m.hovered else input.hovered m.hovered)
    (D := fun _ m' => m'.hovered = input.hovered m.hovered)
  case start => exact ⟨hnames, rfl⟩
  case pass =>
    rintro i p' m' f ⟨hnames, hbefore⟩ hf - -
    exact ⟨(names_after hf (f.name_handle input _)).trans hnames, turn hnames hbefore hf⟩
  case stop =>
    rintro i p' m' f ⟨hnames, hbefore⟩ hf - -
    exact turn hnames hbefore hf
  case done =>
    rintro i p' m' ⟨hnames, hbefore⟩ hi
    have hne : i ≠ 0 := Nat.ne_zero_of_lt (Nat.lt_of_lt_of_le (attachedCount_pos hnames) hi)
    rw [if_neg hne] at hbefore
    exact hbefore

/-- Features mark a new layout. -/
theorem marks_dispatch (p : Pipeline (BuiltIn α)) (m : Model α σ) (now : Float) (input : Input α) :
  m.Marks (p.dispatch m now input).model
  := by
  apply dispatch_keeps (M := fun _ m' => m.Marks m') _ (.refl m)
  intro i p m' f h _ _
  exact h.trans (f.acts_handle input (p.turn m' i now)).marks

/-- Timers leave the hovered cell alone and mark a new layout. -/
theorem hovered_tick (p : Pipeline (BuiltIn α)) (m : Model α σ) (now : Float) :
  (p.tick (Input α) m now).model.hovered = m.hovered
    ∧ m.Marks (p.tick (Input α) m now).model
  := by
  apply tick_keeps (M := fun _ m' => m'.hovered = m.hovered ∧ m.Marks m')
  case fire =>
    rintro i p m' f token ⟨hhovered, hmarks⟩ -
    exact ⟨(f.hovered_fire token _).trans hhovered,
      hmarks.trans (f.roams_fire token (p.turn m' i now)).marks⟩
  case reattach =>
    intro p m' h
    exact h
  case takeDue =>
    intro p m' h
    exact h
  case h => exact ⟨rfl, .refl m⟩

/-- A pointer that moves changes no more of the model than the hovered cell. -/
theorem dispatch_move (p : Pipeline (BuiltIn α)) (m : Model α σ) (now : Float)
    (e : PointerEvent α) :
  ∃ cell, (p.dispatch m now (Input.pointer .move e)).model = { m with hovered := cell }
  := by
  apply dispatch_keeps
    (M := fun (_ : Pipeline (BuiltIn α)) (m' : Model α σ) => ∃ cell, m' = { m with hovered := cell })
    _ ⟨m.hovered, rfl⟩
  rintro i p m' f ⟨cell, rfl⟩ - -
  obtain ⟨-, cell', hturn⟩ := f.handle_move e (p.turn { m with hovered := cell } i now)
  exact ⟨cell', congrArg (·.model) hturn⟩

end Pipeline

/-! ### What follows an event -/

/-- The features have yet to hear of a new layout, and then nothing is hovered, or they have heard
of it. -/
structure Model.IsHovering (untold : Bool) (m : Model α σ) : Prop where
  relaid_eq : m.relaid = untold
  hovered_eq : untold = true → m.hovered = none
  onScreen : m.HoversOnScreen

namespace Grid

variable {g : Grid α σ (BuiltIn α)}

/-- The features hear of a new layout and forget the hovered cell. -/
theorem settle_hovered {a : Answer Unit α σ (BuiltIn α)}
    (hnames : a.grid.pipeline.features.map BuiltIn.name = defaultFeatures) :
  (settle a).grid
    = { a.grid with
        model := { a.grid.model with
          hovered := if a.grid.model.relaid then none else a.grid.model.hovered
          relaid := false } }.flush
  := by
  change a.grid.notifyRendered.grid.flush = _
  rw [notifyRendered]
  split
  case isTrue hrelaid =>
    have hhovered := Pipeline.hovered_dispatch hnames { a.grid.model with relaid := false }
      a.grid.now .rendered
    obtain ⟨hp, cell, hm⟩ := a.grid.pipeline.dispatch_rendered { a.grid.model with relaid := false }
      a.grid.now
    rw [hm] at hhovered
    obtain rfl : cell = none := hhovered
    simp only [offer, hp, hm]
  case isFalse hrelaid =>
    rw [Bool.not_eq_true] at hrelaid
    simp [← hrelaid]

/-- After every event the features have heard of the layout and the hovered cell is on the screen,
if the layout was marked or the cell was on the screen before. -/
theorem isHovering_settle {a : Answer Unit α σ (BuiltIn α)}
    (hnames : a.grid.pipeline.features.map BuiltIn.name = defaultFeatures)
    (h : a.grid.model.relaid = true ∨ a.grid.model.HoversOnScreen) :
  (settle a).grid.model.IsHovering false
  := by
  rw [settle_hovered hnames]
  constructor
  case relaid_eq => rfl
  case hovered_eq =>
    intro hfalse
    cases hfalse
  case onScreen =>
    intro cell hcell
    change (if a.grid.model.relaid then none else a.grid.model.hovered) = some cell at hcell
    split at hcell
    case isTrue => cases hcell
    case isFalse hrelaid => exact h.resolve_left hrelaid cell hcell

/-- What is hovered after an input is on the screen. -/
theorem isHovering_offer (hnames : g.pipeline.features.map BuiltIn.name = defaultFeatures)
    {input : Input α} (hinput : ∀ cell, input.hovered g.model.hovered = some cell →
      g.model.layout.Shows cell) :
  (settle (g.offer input)).grid.model.IsHovering false
  := by
  apply isHovering_settle
  · exact (keeps_names (σ := σ)).turns.dispatch (m := g.model) hnames g.now input
  · cases g.pipeline.marks_dispatch g.model g.now input with
    | relaid hrelaid => exact .inl hrelaid
    | same _ hlayout =>
      right
      intro cell hcell
      change (g.pipeline.dispatch g.model g.now input).model.layout.Shows cell
      rw [hlayout]
      apply hinput
      rw [← Pipeline.hovered_dispatch hnames g.model g.now input]
      exact hcell

/-- Every call but loading a table keeps the hovered cell on the screen and tells the features of a
new layout. -/
theorem isHovering_perform {untold : Bool}
    (hnames : g.pipeline.features.map BuiltIn.name = defaultFeatures)
    (h : g.model.IsHovering untold) (c : Call α σ) :
  (g.perform c).grid.model.IsHovering (c.untold untold)
  := by
  cases hc : c.change? with
  | some f =>
    rw [perform_of_change? hc, Call.untold_of_change? hc]
    apply isHovering_settle hnames
    obtain hrelaid | hsame := Call.relaid_or_eq_of_change? hc g.model
    · exact .inl hrelaid
    · right
      change (f g.model).HoversOnScreen
      rw [hsame]
      exact h.onScreen
  | none =>
    cases c with
    | setClock now => exact h
    | pointer kind p button modifiers =>
      apply isHovering_offer hnames
      intro cell hcell
      cases kind with
      | move => exact Model.shows_of_pointed? hcell
      | _ => exact h.onScreen cell hcell
    | key kind event =>
      apply isHovering_offer hnames
      exact h.onScreen
    | tick now =>
      apply isHovering_settle
      · exact (keeps_names (σ := σ)).turns.tick (m := g.model) hnames now
      · obtain ⟨hhovered, hmarks⟩ := g.pipeline.hovered_tick g.model now
        cases hmarks with
        | relaid hrelaid => exact .inl hrelaid
        | same _ hlayout =>
          right
          intro cell hcell
          change (g.pipeline.tick (Input α) g.model now).model.layout.Shows cell
          rw [hlayout]
          exact h.onScreen cell (hhovered.symm.trans hcell)
    | load data schema =>
      have hnone : (g.perform (.load data schema)).grid.model.hovered = none :=
        g.model.hovered_load data schema
      constructor
      case relaid_eq => rfl
      case hovered_eq =>
        intro _
        exact hnone
      case onScreen =>
        intro cell hcell
        cases hnone.symm.trans hcell
    | setValue x y value =>
      cases hset : g.setValue? x y value with
      | none =>
        simp only [Grid.perform, hset]
        exact h
      | some g' =>
        simp only [Grid.perform, hset]
        obtain ⟨column, row, rfl⟩ := eq_of_setValue? hset
        exact ⟨h.relaid_eq, h.hovered_eq, h.onScreen⟩
    | _ => cases hc

/-- The layout goes on belonging to the grid, whatever the number of rows. -/
theorem isPlaced_perform (h : g.model.toFrame.IsPlaced) (c : Call α σ) :
  (g.perform c).grid.model.toFrame.IsPlaced
  := by
  apply (keeps_of_tracks (P := fun m : Model α σ => m.toFrame.IsPlaced)
    Model.Tracks.isPlaced).perform
  · intro c f _ m hc hm
    exact (Call.tracks_change? hc m).isPlaced hm
  · intro data schema _ m hm
    exact (m.tracks_load data schema).isPlaced hm
  · intro x y value _ m hm
    exact hm
  · exact h

/-! ### Whatever the host does -/

/-- What a host can do to a new grid of the default features by calls, in any order; whether the
features have yet to hear of a new layout then. -/
inductive IsOperated : Bool → Grid α σ (BuiltIn α) → Prop where
  | new (data : σ) (schema : List ColumnSchema) (config : Config α)
    {p : Pipeline (BuiltIn α)} (h : Pipeline.ofNames defaultFeatures = .ok p) :
    IsOperated false (ofPipeline data schema config p)
  | perform {untold : Bool} {g : Grid α σ (BuiltIn α)} (c : Call α σ) :
    IsOperated untold g → IsOperated (c.untold untold) (g.perform c).grid
  | listen {untold : Bool} {g : Grid α σ (BuiltIn α)} (notifier : Notifier α) :
    IsOperated untold g → IsOperated untold { g with notifier := notifier }
  /-- The host puts other features of the same names in the place of those that are there. -/
  | equip {untold : Bool} {g : Grid α σ (BuiltIn α)} (p : Pipeline (BuiltIn α))
    (h : p.features.map BuiltIn.name = defaultFeatures) :
    IsOperated untold g → IsOperated untold { g with pipeline := p }

namespace IsOperated

variable {untold : Bool}

theorem names (h : IsOperated untold g) :
  g.pipeline.features.map BuiltIn.name = defaultFeatures
  := by
  induction h with
  | new data schema config hp => exact (Pipeline.names_ofNames hp).1
  | perform c _ ih => exact names_perform ih c
  | listen notifier _ ih => exact ih
  | equip p hp _ _ => exact hp

theorem isHovering (h : IsOperated untold g) :
  g.model.IsHovering untold
  := by
  induction h with
  | new data schema config hp =>
    constructor
    case relaid_eq => rfl
    case hovered_eq =>
      intro _
      rfl
    case onScreen =>
      intro cell hcell
      cases hcell
  | perform c hg ih => exact isHovering_perform hg.names ih c
  | listen notifier _ ih => exact ih
  | equip p hp _ ih => exact ih

theorem isPlaced (h : IsOperated untold g) :
  g.model.toFrame.IsPlaced
  := by
  induction h with
  | new data schema config hp => exact (isCoherent_ofPipeline data schema config _).isPlaced
  | perform c _ ih => exact isPlaced_perform ih c
  | listen notifier _ ih => exact ih
  | equip p hp _ ih => exact ih

end IsOperated

/-- A pointer that moves changes no more of the model than the hovered cell and what waits to be
told. -/
theorem model_perform_move {untold : Bool} (h : IsOperated untold g) (p : Point α)
    (button : Button) (modifiers : Modifiers) :
  (g.perform (.pointer .move p button modifiers)).grid.model
    = ({ g.model with
        hovered := if untold then none else g.model.pointed? p
        relaid := false } : Model α σ).takeNotices.2
  := by
  have hhovered := Pipeline.hovered_dispatch h.names g.model g.now
    (.pointer .move (g.pointerEvent p button modifiers))
  obtain ⟨cell, hmodel⟩ := g.pipeline.dispatch_move g.model g.now (g.pointerEvent p button modifiers)
  have hnames := (keeps_names (σ := σ)).turns.dispatch (m := g.model) h.names g.now
    (Input.pointer .move (g.pointerEvent p button modifiers))
  change (settle (g.offer (.pointer .move (g.pointerEvent p button modifiers)))).grid.model = _
  rw [hmodel] at hhovered
  obtain rfl : cell = g.model.pointed? p := hhovered
  rw [settle_hovered hnames]
  simp only [offer, hmodel, h.isHovering.relaid_eq]
  rfl

/-- In every grid of the default features the hovered cell is on the screen.  A pointer that moves
leaves the layout as it is and hovers over the cell that is found under it, if the features have
heard of that layout; otherwise nothing is hovered then.  So, where nothing has a negative size, the
hovered cell is the one that holds the pointer exactly if the features have heard of the layout or no
cell holds the pointer. -/
theorem hovers_of_isOperated [OrderedPixel α] {untold : Bool} (h : IsOperated untold g) :
  g.model.HoversOnScreen
    ∧ ∀ (p : Point α) (button : Button) (modifiers : Modifiers),
      let moved := (g.perform (.pointer .move p button modifiers)).grid
      moved.model.layout = g.model.layout
        ∧ moved.model.hovered = (if untold then none else g.model.pointed? p)
        ∧ (g.model.toFrame.HasSizes →
          (moved.model.HoversAt p
            ↔ untold = false ∨ ∀ column row, ¬ moved.model.toFrame.Holds p column row))
  := by
  refine ⟨h.isHovering.onScreen, fun p button modifiers => ?_⟩
  intro moved
  have hmoved : moved.model = _ := model_perform_move h p button modifiers
  have hhovered : moved.model.hovered = (if untold then none else g.model.pointed? p) :=
    congrArg (·.hovered) hmoved
  refine ⟨congrArg (·.layout) hmoved, hhovered, fun hsizes => ?_⟩
  cases untold with
  | true =>
    rw [Model.hoversAt_iff_of_hovered_eq_none hhovered]
    simp
  | false =>
    have hpointed : moved.model.pointed? p = g.model.pointed? p := by
      rw [hmoved, Model.pointed?_eq, Model.pointed?_eq]
      rfl
    have hsizes' : moved.model.toFrame.HasSizes := by
      rw [hmoved]
      exact ⟨hsizes.hasLengths, hsizes.header, hsizes.height⟩
    have hovers := Model.hoversAt_of_pointed hsizes' (isPlaced_perform h.isPlaced _)
      (hhovered.trans hpointed.symm)
    simp [hovers]

/-- A table is put in, and the grid is scrolled before the pointer moves. -/
theorem hovers_of_isOperated_scrolled :
  let table : Table := Table.generate 3 3 fun x y => .text (toString (x + y))
  let schema := ColumnSchema.ofNames ["a", "b", "c"]
  let g : Grid Rat Table (BuiltIn Rat) :=
    (ofPipeline table schema Config.default (.ofFeatures BuiltIn.all)).run
      [.load table schema, .scrollTo 0 0]
  let moved := (g.perform (.pointer .move ⟨60, 30⟩ .primary .none)).grid
  IsOperated false g ∧ g.model.toFrame.HasSizes
    ∧ moved.model.HoversOnScreen
    ∧ moved.model.hovered = some ⟨.shown 0, 1⟩
    ∧ moved.model.HoversAt ⟨60, 30⟩
  := by
  intro table schema g moved
  have hg : IsOperated false g :=
    .perform (.scrollTo 0 0)
      (.perform (.load table schema) (.new _ _ _ Pipeline.ofNames_defaultFeatures))
  have hsizes : g.model.toFrame.HasSizes := by
    have hcolumns : g.model.columns.column?
        = (Columns.ofSchema schema (Config.default : Config Rat)).column? := by
      simp only [g, table, schema]
      cbv
    have hheights : (g.model.config.headerRowHeight, g.model.config.rowHeight) = (24, 20) := by
      simp only [g, table, schema]
      cbv
    obtain ⟨hheader, hheight⟩ := Prod.mk.inj hheights
    constructor
    case hasLengths =>
      apply ((Columns.hasPositiveWidths_ofSchema_default _).hasWidths.congr hcolumns).hasLengths
    case header =>
      rw [hheader]
      decide
    case height =>
      rw [hheight]
      decide
  have hpointed : g.model.pointed? ⟨60, 30⟩ = some ⟨.shown 0, 1⟩ := by
    simp only [g, table, schema]
    cbv
  obtain ⟨-, hmoves⟩ := hovers_of_isOperated hg
  obtain ⟨-, hhovered, hhovers⟩ := hmoves ⟨60, 30⟩ .primary .none
  obtain ⟨hscreen, -⟩ := hovers_of_isOperated (hg.perform (.pointer .move ⟨60, 30⟩ .primary .none))
  exact ⟨hg, hsizes, hscreen, hhovered.trans hpointed, (hhovers hsizes).mpr (.inl rfl)⟩

/-- Right after a table has been put in, the pointer moves over the first cell and hovers over
nothing. -/
theorem hovers_nothing_after_load :
  let table : Table := Table.generate 3 3 fun x y => .text (toString (x + y))
  let schema := ColumnSchema.ofNames ["a", "b", "c"]
  let g : Grid Rat Table (BuiltIn Rat) :=
    (ofPipeline table schema Config.default (.ofFeatures BuiltIn.all)).run [.load table schema]
  let moved := (g.perform (.pointer .move ⟨60, 30⟩ .primary .none)).grid
  IsOperated true g
    ∧ (∃ column row, moved.model.toFrame.Holds ⟨60, 30⟩ column row
      ∧ column.slot = .shown 0 ∧ row.index = 1)
    ∧ moved.model.hovered = none
    ∧ ¬ moved.model.HoversAt ⟨60, 30⟩
  := by
  intro table schema g moved
  have hg : IsOperated true g :=
    .perform (.load table schema) (.new _ _ _ Pipeline.ofNames_defaultFeatures)
  have hmoved : (moved.model.layout.columns[1]?, moved.model.layout.rows[1]?, moved.model.hovered)
      = (some ⟨1, .shown 0, .data 0, 40, 100⟩, some ⟨1, 0, .data, 24, 20⟩, none) := by
    simp only [moved, g, table, schema]
    cbv
  simp only [Prod.mk.injEq] at hmoved
  obtain ⟨hcolumn, hrow, hnone⟩ := hmoved
  have hholds : moved.model.toFrame.Holds ⟨60, 30⟩ ⟨1, .shown 0, .data 0, 40, 100⟩
      ⟨1, 0, .data, 24, 20⟩ := by
    constructor
    case column_mem => exact List.mem_of_getElem? hcolumn
    case row_mem => exact List.mem_of_getElem? hrow
    case x_bounds =>
      change (40 : Rat) ≤ 60 ∧ (60 : Rat) < 40 + 100
      norm_num
    case y_bounds =>
      change (24 : Rat) ≤ 30 ∧ (30 : Rat) < 24 + 20
      norm_num
  refine ⟨hg, ⟨_, _, hholds, rfl, rfl⟩, hnone, ?_⟩
  rw [Model.hoversAt_iff_of_hovered_eq_none hnone]
  intro hnot
  exact hnot _ _ hholds

end Grid

end DataGrid
