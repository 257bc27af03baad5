import DataGrid.Proofs.Feature.Names
import DataGrid.Proofs.Grid.Effects
import DataGrid.Proofs.Pipeline.Reattachment
import DataGrid.Table

/-!
# Grids are put together again

Whatever a host does to a grid with the default features, in any order and at any times: while
columns are held, the features after the one that moves them are cut off, and no timer attaches
them; when none are held, these features are attached, or a timer waits that attaches them
(`Grid.reattaches_of_leadsTo`).
-/

namespace DataGrid

variable {α σ : Type} [Pixel α] [DataSource σ]

namespace Grid

/-- What a host can make of a grid, by calls, by other listeners and by writing into the model, if
on the way there are only grids that have a property. -/
inductive LeadsTo (P : Grid α σ (BuiltIn α) → Prop) (g : Grid α σ (BuiltIn α)) :
    Grid α σ (BuiltIn α) → Prop where
  | refl (h : P g) : LeadsTo P g g
  | perform {g' : Grid α σ (BuiltIn α)} (c : Call α σ) (h : P (g'.perform c).grid) :
    LeadsTo P g g' → LeadsTo P g (g'.perform c).grid
  | listen {g' : Grid α σ (BuiltIn α)} (notifier : Notifier α)
    (h : P { g' with notifier := notifier }) :
    LeadsTo P g g' → LeadsTo P g { g' with notifier := notifier }
  | edit {g' : Grid α σ (BuiltIn α)} (m : Model α σ) (h : P { g' with model := m }) :
    LeadsTo P g g' → LeadsTo P g { g' with model := m }

omit [Pixel α] [DataSource σ] in
/-- No columns are held. -/
def IsIdle (g : Grid α σ (BuiltIn α)) : Prop :=
  g.pipeline.features[movingIndex]? = some (.columnMoving .idle)

/-- What holds of a grid whose feature that moves columns is in a state.  While it holds columns,
the features after it are cut off, none of the timers that wait can attach them, and no tick does.
If features are cut off while it holds none, a timer waits that counts, and the first tick that
comes when this timer is due, before columns are held again, attaches all features. -/
structure Reattaches (g : Grid α σ (BuiltIn α)) (s : ColumnMoving α) : Prop where
  moving : g.pipeline.features[movingIndex]? = some (.columnMoving s)
  held : s ≠ .idle → g.pipeline.detachedAt = some movingIndex
  stale : s ≠ .idle → ∀ t ∈ g.pipeline.timers.pending, t.target = .reattach →
    g.pipeline.reattachToken ≠ some t.token
  kept : s ≠ .idle → ∀ now, (g.perform (.tick now)).grid.pipeline.detachedAt = some movingIndex
  awaited : s = .idle → g.pipeline.isDetached = true →
    ∃ t ∈ g.pipeline.timers.pending, t.target = .reattach
      ∧ g.pipeline.reattachToken = some t.token
      ∧ ∀ g' now, g.LeadsTo IsIdle g' → t.due ≤ now →
        (g'.perform (.tick now)).grid.pipeline.isDetached = false

/-! ### What a call does to a pipeline -/

variable {g g' : Grid α σ (BuiltIn α)} {k : Nat} {t : Timer}

theorem isAttachable_perform (h : g.pipeline.IsAttachable k) (c : Call α σ) :
  (g.perform c).grid.pipeline.IsAttachable k
  := by
  cases g.effect_perform c with
  | input input press release pipeline =>
    rw [pipeline]
    apply h.dispatch
  | tick now call pipeline =>
    rw [pipeline]
    apply h.tick
  | other press release pipeline =>
    rw [pipeline]
    apply h

/-- A call leaves the features to be attached by the same timer, unless it takes hold of columns. -/
theorem awaits_perform (h : g.pipeline.Awaits k t) (c : Call α σ) :
  (g.perform c).grid.pipeline.Awaits k t ∨ (g.perform c).grid.pipeline.IsHeld k
  := by
  cases g.effect_perform c with
  | input input press release pipeline =>
    rw [pipeline]
    apply h.dispatch
  | tick now call pipeline =>
    rw [pipeline]
    exact .inl (h.tick g.model now).1
  | other press release pipeline =>
    rw [pipeline]
    exact .inl h

/-! ### What a host can make of a grid -/

theorem LeadsTo.isAttachable {P : Grid α σ (BuiltIn α) → Prop} (h : g.LeadsTo P g')
    (hg : g.pipeline.IsAttachable k) :
  g'.pipeline.IsAttachable k
  := by
  induction h with
  | refl _ => apply hg
  | perform c _ _ ih => apply isAttachable_perform ih c
  | listen notifier _ _ ih => apply ih
  | edit m _ _ ih => apply ih

omit [Pixel α] [DataSource σ] in
theorem not_isHeld_of_isIdle (h : g.IsIdle) :
  ¬ g.pipeline.IsHeld movingIndex
  := by
  intro hheld
  obtain ⟨s, hmoves, hs⟩ := hheld.moves
  cases Option.some.inj (h.symm.trans hmoves.moving)
  cases hs

/-- As long as no columns are held, the features are to be attached by the same timer. -/
theorem LeadsTo.awaits (h : g.LeadsTo IsIdle g') (hg : g.pipeline.Awaits movingIndex t) :
  g'.pipeline.Awaits movingIndex t
  := by
  induction h with
  | refl _ => apply hg
  | perform c hidle _ ih =>
    obtain h | hheld := awaits_perform ih c
    · apply h
    · cases not_isHeld_of_isIdle hidle hheld
  | listen notifier _ _ ih => apply ih
  | edit m _ _ ih => apply ih

/-! ### New grids -/

omit [Pixel α] [DataSource σ] in
theorem eq_columnMoving_of_mem_all {f : BuiltIn α} (h : f ∈ BuiltIn.all)
    (hname : f.name = "column_moving") :
  f = .columnMoving .idle
  := by
  simp only [BuiltIn.all, List.mem_cons, List.not_mem_nil, or_false] at h
  obtain rfl | rfl | rfl | rfl | rfl | rfl | rfl | rfl | rfl | rfl := h
  case inr.inr.inr.inr.inr.inr.inl => rfl
  all_goals simp [BuiltIn.name] at hname

omit [Pixel α] [DataSource σ] in
/-- A new pipeline of the default features has one feature that moves columns, and no features are
cut off. -/
theorem awaits_ofNames {p : Pipeline (BuiltIn α)} (h : Pipeline.ofNames defaultFeatures = .ok p)
    (t : Timer) :
  p.Awaits movingIndex t
  := by
  obtain ⟨hnames, hp⟩ := Pipeline.names_ofNames h
  have hmoving : defaultFeatures[movingIndex]? = some "column_moving" := rfl
  obtain ⟨f, hf, hname⟩ : ∃ f, p.features[movingIndex]? = some f ∧ f.name = "column_moving" := by
    rw [← hnames, List.getElem?_map] at hmoving
    apply Option.map_eq_some_iff.mp hmoving
  refine .attached ⟨?_, ?_⟩ ?_
  case refine_1 =>
    have hnew : f ∈ BuiltIn.all := Pipeline.mem_all_of_ofNames h (List.mem_of_getElem? hf)
    rw [hf, eq_columnMoving_of_mem_all hnew hname]
  case refine_2 =>
    intro i g hg hi hname'
    apply hi
    apply Pipeline.index_eq_of_name_eq hnames hg hf (hname'.trans hname.symm)
  case refine_3 => rw [hp, Pipeline.ofFeatures]

/-- Whatever is done to a grid with the default features, no timer attaches features while columns
are held, and features that are cut off while none are held are attached again. -/
theorem reattaches_of_leadsTo (data : σ) (schema : List ColumnSchema) {config : Config α}
    (hfeatures : config.features = defaultFeatures) :
  ∃ g : Grid α σ (BuiltIn α), ofConfig data schema config = .ok g
    ∧ ∀ g', g.LeadsTo (fun _ => True) g' → ∃ s, g'.Reattaches s
  := by
  obtain ⟨p, hp⟩ : ∃ p : Pipeline (BuiltIn α), Pipeline.ofNames defaultFeatures = .ok p :=
    Pipeline.exists_ofNames fun _ h => h
  have hg : ofConfig data schema config = .ok (ofPipeline data schema config p) := by
    rw [ofConfig, hfeatures, hp]
    rfl
  refine ⟨_, hg, fun g' hg' => ?_⟩
  have hattachable : g'.pipeline.IsAttachable movingIndex :=
    hg'.isAttachable (.inr ⟨_, awaits_ofNames hp ⟨0, .reattach, 0⟩⟩)
  obtain hheld | ⟨t, hawaits⟩ := hattachable
  · obtain ⟨s, hmoves, hs⟩ := hheld.moves
    refine ⟨s, hmoves.moving, fun _ => hheld.detachedAt_eq, ?_, ?_, ?_⟩
    · intro _ t _ _
      rw [hheld.reattachToken_eq]
      rintro ⟨⟩
    · intro _ now
      rw [(g'.perform_tick_eq now).1]
      apply (hheld.tick g'.model now).detachedAt_eq
    · rintro rfl
      cases hs
  · refine ⟨.idle, hawaits.moves.moving, ?_, ?_, ?_, ?_⟩
    · intro hne
      cases hne rfl
    · intro hne
      cases hne rfl
    · intro hne
      cases hne rfl
    · intro _ hdetached
      cases hawaits with
      | attached moves detachedAt =>
        rw [Pipeline.isDetached, detachedAt] at hdetached
        cases hdetached
      | detached moves detachedAt target token pending =>
        refine ⟨t, pending, target, token, ?_⟩
        intro g'' now hg'' hdue
        have hlater := hg''.awaits (.detached moves detachedAt target token pending)
        rw [(g''.perform_tick_eq now).1, Pipeline.isDetached, (hlater.tick g''.model now).2 hdue]
        rfl

/-- A table of five columns with the settings that grids have if nothing else is asked for. -/
theorem reattaches_of_leadsTo_table :
  let config : Config Rat := Config.default
  let data : Table := Table.generate 5 3 fun x y => .text (toString (x + y))
  config.features = defaultFeatures
    ∧ ∃ g : Grid Rat Table (BuiltIn Rat),
      ofConfig data (ColumnSchema.ofNames ["a", "b", "c", "d", "e"]) config = .ok g
      ∧ ∀ g', g.LeadsTo (fun _ => True) g' → ∃ s, g'.Reattaches s
  := ⟨rfl, reattaches_of_leadsTo _ _ rfl⟩

end Grid

end DataGrid
