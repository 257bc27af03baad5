import DataGrid.Grid.Call
import DataGrid.Proofs.Feature.Rest
import DataGrid.Proofs.Model.Coherence
import DataGrid.Proofs.Pipeline.Rules

/-!
# What follows an event

When an event has been answered, the features hear of the new layout and the listeners of what has
changed.  Neither changes the features of this library, nor anything that lasts of the model.
-/

namespace DataGrid

variable {α σ : Type} [Pixel α] [DataSource σ]

namespace Model

omit [Pixel α] [DataSource σ] in
theorem silent_eq_of_still_eq {m m' : Model α σ} (h : m'.still = m.still) :
  m'.toFrame.silent = m.toFrame.silent
  := congrArg (fun m => m.toFrame) h

omit [Pixel α] [DataSource σ] in
theorem selection_eq_of_still_eq {m m' : Model α σ} (h : m'.still = m.still) :
  m'.selection = m.selection
  := congrArg (fun m => m.selection) h

omit [Pixel α] [DataSource σ] in
theorem overlays_eq_of_still_eq {m m' : Model α σ} (h : m'.still = m.still) :
  m'.overlays = m.overlays
  := congrArg (fun m => m.overlays) h

theorem isCoherent_of_still_eq {m m' : Model α σ} (h : m'.still = m.still) (hm : m.IsCoherent) :
  m'.IsCoherent
  := by
  have hdata : m'.data = m.data := congrArg (fun m => m.data) h
  exact (Tracks.same (silent_eq_of_still_eq h) hdata).isCoherent hm

end Model

namespace Pipeline

/-- The features take note of a new layout without changing. -/
theorem dispatch_rendered (p : Pipeline (BuiltIn α)) (m : Model α σ) (now : Float) :
  (p.dispatch m now (Input.rendered : Input α)).pipeline = p
    ∧ ∃ cell, (p.dispatch m now (Input.rendered : Input α)).model = { m with hovered := cell }
  := by
  apply dispatch_rule
    (C := fun _ p' (m' : Model α σ) => p' = p ∧ ∃ cell, m' = { m with hovered := cell })
    (D := fun p' m' => p' = p ∧ ∃ cell, m' = { m with hovered := cell })
  case start => exact ⟨rfl, m.hovered, rfl⟩
  case pass =>
    rintro index p' m' f ⟨rfl, cell, rfl⟩ hf - -
    obtain ⟨cell', hreply⟩ := f.handle_rendered (p'.turn { m with hovered := cell } index now)
    change p'.after index now (f.handle .rendered _) = p'
      ∧ ∃ cell, (f.handle .rendered _).turn.model = { m with hovered := cell }
    rw [hreply, after_eq_self now hf rfl rfl]
    exact ⟨rfl, cell', rfl⟩
  case stop =>
    rintro index p' m' f - - - hresult
    obtain ⟨cell, hreply⟩ := f.handle_rendered (p'.turn m' index now)
    change (f.handle .rendered _).result ≠ _ at hresult
    rw [hreply] at hresult
    cases hresult rfl
  case done =>
    rintro index p' m' h -
    apply h

end Pipeline

namespace Grid

/-- What follows an event is that listeners are told; the hovered cell and the mark of a new layout
may go before that. -/
theorem settle_eq_flush (a : Answer Unit α σ (BuiltIn α)) :
  ∃ cell relaid, (settle a).grid
    = { a.grid with model := { a.grid.model with hovered := cell, relaid := relaid } }.flush
  := by
  change ∃ cell relaid, a.grid.notifyRendered.grid.flush = _
  rw [notifyRendered]
  split
  · obtain ⟨hp, cell, hm⟩ := a.grid.pipeline.dispatch_rendered { a.grid.model with relaid := false }
      a.grid.now
    refine ⟨cell, false, ?_⟩
    simp only [offer, hp, hm]
  · exact ⟨a.grid.model.hovered, a.grid.model.relaid, rfl⟩

theorem settle_eq (a : Answer Unit α σ (BuiltIn α)) :
  (settle a).grid.pipeline = a.grid.pipeline
    ∧ (settle a).grid.model.still = a.grid.model.still
  := by
  obtain ⟨cell, relaid, h⟩ := settle_eq_flush a
  rw [h]
  apply And.intro rfl rfl

/-- The event that a grid makes of a pointer. -/
def pointerEvent (g : Grid α σ (BuiltIn α)) (point : Point α) (button : Button)
    (modifiers : Modifiers) : PointerEvent α :=
  ⟨point, button, modifiers, g.model.cellAt? point⟩

theorem perform_pointer_eq (g : Grid α σ (BuiltIn α)) (kind : PointerKind) (point : Point α)
    (button : Button) (modifiers : Modifiers) :
  let o := g.pipeline.dispatch g.model g.now
    (Input.pointer kind (g.pointerEvent point button modifiers))
  (g.perform (.pointer kind point button modifiers)).grid.pipeline = o.pipeline
    ∧ (g.perform (.pointer kind point button modifiers)).grid.model.still = o.model.still
  := settle_eq _

theorem perform_key_eq (g : Grid α σ (BuiltIn α)) (kind : KeyKind) (event : KeyEvent) :
  let o := g.pipeline.dispatch g.model g.now (.key kind event : Input α)
  (g.perform (.key kind event)).grid.pipeline = o.pipeline
    ∧ (g.perform (.key kind event)).grid.model.still = o.model.still
  := settle_eq _

theorem perform_tick_eq (g : Grid α σ (BuiltIn α)) (now : Float) :
  let o := g.pipeline.tick (Input α) g.model now
  (g.perform (.tick now)).grid.pipeline = o.pipeline
    ∧ (g.perform (.tick now)).grid.model.still = o.model.still
  := settle_eq _

end Grid

end DataGrid
