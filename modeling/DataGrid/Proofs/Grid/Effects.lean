import DataGrid.Proofs.Feature.Gesture
import DataGrid.Proofs.Grid.Rules
import DataGrid.Proofs.Grid.Settle

/-!
# What calls do

A call of a grid offers one input to its features, lets timers go off, or does neither
(`Grid.Effect`).  In the last case the pipeline stays as it is, and nothing new is drawn.
-/

namespace DataGrid

variable {α σ : Type}

namespace Call

/-- Whether a button goes down. -/
def isPress : Call α σ → Bool
  | .pointer .down _ _ _ => true
  | _ => false

/-- Whether a button goes up. -/
def isRelease : Call α σ → Bool
  | .pointer .up _ _ _ => true
  | _ => false

end Call

/-! ### Changes by the host -/

variable [Pixel α] [DataSource σ]

namespace Model

theorem overlays_clampFixedColumns (m : Model α σ) :
  m.clampFixedColumns.overlays = m.overlays
  := by
  rw [clampFixedColumns]
  split
  · apply overlays_setFixedColumns
  · rfl

theorem overlays_clampFixedRows (m : Model α σ) :
  m.clampFixedRows.overlays = m.overlays
  := by
  rw [clampFixedRows]
  split
  · apply overlays_setFixedRows
  · rfl

theorem overlays_moveColumns (m : Model α σ) (start count target : Nat) :
  ((m.moveColumns? start count target).getD m).overlays = m.overlays
  := by
  cases h : m.moveColumns? start count target with
  | none => rfl
  | some m' => apply overlays_moveColumns? h

theorem overlays_load (m : Model α σ) (data : σ) (schema : List ColumnSchema) :
  (m.load data schema).overlays = .none
  := (overlays_clampFixedRows _).trans (overlays_clampFixedColumns _)

end Model

/-- A change of the model by the host draws nothing. -/
theorem Call.overlays_change? {c : Call α σ} {f : Model α σ → Model α σ} (h : c.change? = some f)
    (m : Model α σ) :
  (f m).overlays = m.overlays
  := by
  cases c with
  | setClock | pointer | key | tick | load | setValue => cases h
  | resizeViewport width height =>
    obtain rfl := Option.some.inj h
    rfl
  | scrollTo left top =>
    obtain rfl := Option.some.inj h
    rfl
  | scrollBy columns rows =>
    obtain rfl := Option.some.inj h
    apply (Model.Scrolls.scrollBy m columns rows).overlays_eq
  | setFixedColumns count =>
    obtain rfl := Option.some.inj h
    apply Model.overlays_setFixedColumns
  | setFixedRows count =>
    obtain rfl := Option.some.inj h
    apply Model.overlays_setFixedRows
  | moveColumns start count target =>
    obtain rfl := Option.some.inj h
    apply Model.overlays_moveColumns
  | showColumns source indexes placement duplicates =>
    obtain rfl := Option.some.inj h
    apply Model.overlays_clampFixedColumns
  | hideColumns source indexes =>
    obtain rfl := Option.some.inj h
    apply Model.overlays_clampFixedColumns
  | restore snapshot =>
    obtain rfl := Option.some.inj h
    rfl

/-! ### All calls -/

namespace Grid

/-- What a call may do to the features of a grid and to what is drawn. -/
inductive Effect (g : Grid α σ (BuiltIn α)) (c : Call α σ) (g' : Grid α σ (BuiltIn α)) : Prop where
  /-- The features answer an input. -/
  | input (input : Input α) (press : c.isPress = input.isPress)
    (release : c.isRelease = input.isRelease)
    (pipeline : g'.pipeline = (g.pipeline.dispatch g.model g.now input).pipeline)
    (overlays : g'.model.overlays = (g.pipeline.dispatch g.model g.now input).model.overlays)
  /-- Timers go off. -/
  | tick (now : Float) (call : c = .tick now)
    (pipeline : g'.pipeline = (g.pipeline.tick (Input α) g.model now).pipeline)
    (overlays : g'.model.overlays = (g.pipeline.tick (Input α) g.model now).model.overlays)
  /-- The features are not asked. -/
  | other (press : c.isPress = false) (release : c.isRelease = false)
    (pipeline : g'.pipeline = g.pipeline)
    (overlays : g'.model.overlays = g.model.overlays ∨ g'.model.overlays = .none)

theorem effect_perform (g : Grid α σ (BuiltIn α)) (c : Call α σ) :
  Effect g c (g.perform c).grid
  := by
  cases hc : c.change? with
  | some f =>
    obtain ⟨hp, hm⟩ := settle_eq ⟨.ok (), { g with model := f g.model }⟩
    rw [perform_of_change? hc]
    refine .other ?_ ?_ hp (.inl ?_)
    · cases c with
      | pointer => cases hc
      | _ => rfl
    · cases c with
      | pointer => cases hc
      | _ => rfl
    · apply (Model.overlays_eq_of_still_eq hm).trans (Call.overlays_change? hc g.model)
  | none =>
    cases c with
    | setClock now => exact .other rfl rfl rfl (.inl rfl)
    | pointer kind point button modifiers =>
      obtain ⟨hp, hm⟩ := g.perform_pointer_eq kind point button modifiers
      refine .input _ ?_ ?_ hp (Model.overlays_eq_of_still_eq hm)
      · cases kind <;> rfl
      · cases kind <;> rfl
    | key kind event =>
      obtain ⟨hp, hm⟩ := settle_eq (g.offer (.key kind event))
      exact .input (.key kind event) rfl rfl hp (Model.overlays_eq_of_still_eq hm)
    | tick now =>
      obtain ⟨hp, hm⟩ := g.perform_tick_eq now
      exact .tick now rfl hp (Model.overlays_eq_of_still_eq hm)
    | load data schema => exact .other rfl rfl rfl (.inr (Model.overlays_load _ _ _))
    | setValue x y value =>
      cases hset : g.setValue? x y value with
      | none =>
        simp only [perform, hset]
        exact .other rfl rfl rfl (.inl rfl)
      | some g' =>
        obtain ⟨column, row, rfl⟩ := eq_of_setValue? hset
        simp only [perform, hset]
        exact .other rfl rfl rfl (.inl rfl)
    | _ => cases hc

/-- What is kept by every input that is no press, by every tick, and when nothing more is drawn is
kept by every call that is no press. -/
theorem keeps_of_effect {M : Pipeline (BuiltIn α) → Model α σ → Prop}
    (dispatch : ∀ {p : Pipeline (BuiltIn α)} {m : Model α σ} {input : Input α} (now : Float),
      input.isPress = false → M p m →
      M (p.dispatch m now input).pipeline (p.dispatch m now input).model)
    (tick : ∀ {p : Pipeline (BuiltIn α)} {m : Model α σ} (now : Float), M p m →
      M (p.tick (Input α) m now).pipeline (p.tick (Input α) m now).model)
    (congr : ∀ {p : Pipeline (BuiltIn α)} {m m' : Model α σ}, M p m →
      m'.overlays = m.overlays ∨ m'.overlays = .none → M p m')
    {g : Grid α σ (BuiltIn α)} {c : Call α σ} (hc : c.isPress = false)
    (h : M g.pipeline g.model) :
  M (g.perform c).grid.pipeline (g.perform c).grid.model
  := by
  cases g.effect_perform c with
  | input input press release pipeline overlays =>
    rw [pipeline]
    apply congr (dispatch g.now (press.symm.trans hc) h) (.inl overlays)
  | tick now call pipeline overlays =>
    rw [pipeline]
    apply congr (tick now h) (.inl overlays)
  | other press release pipeline overlays =>
    rw [pipeline]
    apply congr h overlays

end Grid

end DataGrid
