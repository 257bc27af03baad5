import DataGrid.Proofs.Feature.Names
import DataGrid.Proofs.Grid.Effects
import DataGrid.Proofs.Pipeline.Gestures
import DataGrid.Table

/-!
# Gestures on a grid

If every press is followed by a release before the next press, then at most one feature drags at a
time, whatever features a grid has and whatever else is done to it, and after every release no
feature drags and nothing is drawn (`Grid.gestures_run`).
-/

namespace DataGrid

variable {α σ : Type}

/-- Whether every press comes while no button is down; `held` tells whether one is down before. -/
def Call.pressesApart (held : Bool) : List (Call α σ) → Bool
  | [] => true
  | c :: rest =>
    if c.isPress then !held && pressesApart true rest
    else pressesApart (held && !c.isRelease) rest

/-- A press is no release. -/
theorem Call.isRelease_eq_false (c : Call α σ) (h : c.isPress = true) :
  c.isRelease = false
  := by
  unfold isPress at h
  split at h
  · rfl
  · cases h

variable [Pixel α] [DataSource σ]

namespace Grid

variable {g : Grid α σ (BuiltIn α)} {c : Call α σ}

/-! ### One call -/

theorem isClean_perform (h : g.pipeline.IsClean g.model) (hc : c.isPress = false) :
  (g.perform c).grid.pipeline.IsClean (g.perform c).grid.model
  := by
  apply keeps_of_effect (M := Pipeline.IsClean) _ _ Pipeline.IsClean.congr hc h
  · intro p m input now hpress h
    apply h.dispatch hpress now
  · intro p m now h
    apply h.tick now

theorem isEngaged_perform (h : g.pipeline.IsEngaged g.model) (hc : c.isPress = false) :
  (g.perform c).grid.pipeline.IsEngaged (g.perform c).grid.model
  := by
  apply keeps_of_effect (M := Pipeline.IsEngaged) _ _ Pipeline.IsEngaged.congr hc h
  · intro p m input now hpress h
    apply h.dispatch hpress now
  · intro p m now h
    apply h.tick now

theorem isEngaged_perform_press (h : g.pipeline.IsClean g.model) (hc : c.isPress = true) :
  (g.perform c).grid.pipeline.IsEngaged (g.perform c).grid.model
  := by
  cases g.effect_perform c with
  | input input press release pipeline overlays =>
    rw [pipeline]
    apply (h.dispatch_press g.now input).congr (.inl overlays)
  | tick now call =>
    rw [call] at hc
    cases hc
  | other press => cases press.symm.trans hc

theorem isClean_perform_release (h : g.pipeline.IsEngaged g.model) (hc : c.isRelease = true) :
  (g.perform c).grid.pipeline.IsClean (g.perform c).grid.model
  := by
  cases g.effect_perform c with
  | input input press release pipeline overlays =>
    rw [pipeline]
    apply (h.dispatch_release (release.symm.trans hc) g.now).congr (.inl overlays)
  | tick now call =>
    rw [call] at hc
    cases hc
  | other press release => cases release.symm.trans hc

/-! ### A run of calls -/

/-- While no button is down no feature drags, and otherwise at most one does. -/
def IsInPhase (held : Bool) (g : Grid α σ (BuiltIn α)) : Prop :=
  if held then g.pipeline.IsEngaged g.model else g.pipeline.IsClean g.model

omit [Pixel α] [DataSource σ] in
theorem IsInPhase.isEngaged {held : Bool} (h : IsInPhase held g) :
  g.pipeline.IsEngaged g.model
  := by
  cases held with
  | false => exact .inl h
  | true => apply h

theorem IsInPhase.perform_press (h : IsInPhase false g) (hc : c.isPress = true) :
  IsInPhase true (g.perform c).grid
  := isEngaged_perform_press h hc

theorem IsInPhase.perform {held : Bool} (h : IsInPhase held g) (hc : c.isPress = false) :
  IsInPhase (held && !c.isRelease) (g.perform c).grid
  := by
  cases hrelease : c.isRelease with
  | true =>
    rw [Bool.not_true, Bool.and_false]
    apply isClean_perform_release h.isEngaged hrelease
  | false =>
    rw [Bool.not_false, Bool.and_true]
    cases held with
    | false => apply isClean_perform h hc
    | true => apply isEngaged_perform h hc

/-- All along a run at most one feature drags, and after a release none does. -/
theorem IsInPhase.run {calls : List (Call α σ)} {held : Bool} (h : IsInPhase held g)
    (hcalls : Call.pressesApart held calls = true) :
  (∀ n, let g' := g.run (calls.take n)
    g'.pipeline.IsEngaged g'.model)
    ∧ ∀ {n : Nat} (hn : n < calls.length), calls[n].isRelease = true →
      let g' := g.run (calls.take (n + 1))
      g'.pipeline.IsClean g'.model
  := by
  induction calls generalizing g held with
  | nil =>
    constructor
    · intro n
      rw [List.take_nil]
      apply h.isEngaged
    · intro n hn
      cases hn
  | cons c rest ih =>
    -- what holds after the first call, and how the presses of the others lie
    obtain ⟨held', hnext, hrest, hclean⟩ : ∃ held', IsInPhase held' (g.perform c).grid
        ∧ Call.pressesApart held' rest = true ∧ (c.isRelease = true → held' = false) := by
      rw [Call.pressesApart] at hcalls
      split at hcalls
      case isTrue hpress =>
        obtain ⟨hheld, hrest⟩ := Bool.and_eq_true_iff.mp hcalls
        rw [Bool.not_eq_true'] at hheld
        subst hheld
        refine ⟨true, h.perform_press hpress, hrest, ?_⟩
        intro hrelease
        rw [c.isRelease_eq_false hpress] at hrelease
        cases hrelease
      case isFalse hpress =>
        refine ⟨_, h.perform (Bool.eq_false_iff.mpr hpress), hcalls, ?_⟩
        intro hrelease
        rw [hrelease, Bool.not_true, Bool.and_false]
    obtain ⟨hengaged, hreleased⟩ := ih hnext hrest
    constructor
    · intro n
      cases n with
      | zero => apply h.isEngaged
      | succ n => apply hengaged n
    · intro n hn hrelease
      cases n with
      | zero =>
        obtain rfl := hclean hrelease
        apply hnext
      | succ n => apply hreleased (Nat.lt_of_succ_lt_succ hn) hrelease

omit [Pixel α] [DataSource σ] in
/-- No feature drags at first. -/
theorem isDragging_of_mem_all {f : BuiltIn α} (h : f ∈ BuiltIn.all) :
  f.isDragging = false
  := by
  simp only [BuiltIn.all, List.mem_cons, List.not_mem_nil, or_false] at h
  obtain rfl | rfl | rfl | rfl | rfl | rfl | rfl | rfl | rfl | rfl := h
  all_goals rfl

/-- With any list of features, if every press is followed by a release before the next press, at
most one feature drags at a time; after every release none does, and nothing is drawn. -/
theorem gestures_run (data : σ) (schema : List ColumnSchema) {config : Config α}
    (hfeatures : ∀ name ∈ config.features, name ∈ defaultFeatures) {calls : List (Call α σ)}
    (hcalls : Call.pressesApart false calls = true) :
  ∃ g : Grid α σ (BuiltIn α), ofConfig data schema config = .ok g
    ∧ (∀ n, (g.run (calls.take n)).pipeline.IsExclusive)
    ∧ ∀ n (hn : n < calls.length), calls[n].isRelease = true →
      let g' := g.run (calls.take (n + 1))
      (∀ f ∈ g'.pipeline.features, f.isDragging = false) ∧ g'.model.overlays = .none
  := by
  obtain ⟨p, hp⟩ := Pipeline.exists_ofNames hfeatures
  have hg : ofConfig data schema config = .ok (ofPipeline data schema config p) := by
    rw [ofConfig, hp]
    rfl
  have hclean : IsInPhase false (ofPipeline data schema config p) := by
    constructor
    case rest =>
      intro f hf
      apply isDragging_of_mem_all (Pipeline.mem_all_of_ofNames hp hf)
    case overlays => rfl
  obtain ⟨hengaged, hreleased⟩ := hclean.run hcalls
  refine ⟨_, hg, ?_, ?_⟩
  · intro n
    apply (hengaged n).isExclusive
  · intro n hn hrelease g'
    have h := hreleased hn hrelease
    exact ⟨h.rest, h.overlays⟩

/-- Two features that move columns and one that selects cells; a drag is dropped, and before the
features after it are attached again there is another press. -/
theorem gestures_run_twice :
  let config : Config Rat :=
    { Config.default with features := ["column_moving", "cell_selection", "column_moving"] }
  let data : Table := Table.generate 5 3 fun x y => .text (toString (x + y))
  let schema := ColumnSchema.ofNames ["a", "b", "c", "d", "e"]
  let calls : List (Call Rat Table) :=
    [.pointer .down ⟨50, 10⟩ .primary .none, .pointer .drag ⟨150, 10⟩ .primary .none,
      .load data schema, .pointer .up ⟨150, 10⟩ .primary .none,
      .pointer .down ⟨50, 40⟩ .primary .none, .tick 300,
      .pointer .up ⟨50, 40⟩ .primary .none]
  (∀ name ∈ config.features, name ∈ defaultFeatures) ∧ Call.pressesApart false calls = true
    ∧ ∃ g : Grid Rat Table (BuiltIn Rat), ofConfig data schema config = .ok g
      ∧ (∀ n, (g.run (calls.take n)).pipeline.IsExclusive)
      ∧ ∀ n (hn : n < calls.length), calls[n].isRelease = true →
        let g' := g.run (calls.take (n + 1))
        (∀ f ∈ g'.pipeline.features, f.isDragging = false) ∧ g'.model.overlays = .none
  := by
  intro config data schema calls
  have hfeatures : ∀ name ∈ config.features, name ∈ defaultFeatures := by decide
  have hcalls : Call.pressesApart false calls = true := rfl
  exact ⟨hfeatures, hcalls, gestures_run data schema hfeatures hcalls⟩

end Grid

end DataGrid
