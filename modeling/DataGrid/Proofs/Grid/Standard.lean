import DataGrid.Proofs.Feature.Addressees
import DataGrid.Proofs.Grid.Escape
import DataGrid.Proofs.Grid.Reattachment

/-!
# Events on grids with the default features

The default features have places of their own, and those up to the one that moves columns see every
input (`Grid.IsStandard.lt_attachedCount`).  A press is for the feature that takes it
(`Pipeline.isFor_down`), and while one feature leads, drags and releases are for that feature
(`Pipeline.IsLedBy`).  A feature that drags alone and sets no timers is left alone by ticks
(`Pipeline.DragsAlone.tick`).
-/

namespace DataGrid

variable {α σ : Type}

namespace Pipeline

theorem IsAttachable.detachedAt_cases {p : Pipeline (BuiltIn α)} {k : Nat}
    (h : p.IsAttachable k) :
  p.detachedAt = none ∨ p.detachedAt = some k
  := by
  obtain hheld | ⟨t, hawaits⟩ := h
  · exact .inr hheld.detachedAt_eq
  · cases hawaits with
    | attached moves detachedAt => exact .inl detachedAt
    | detached moves detachedAt => exact .inr detachedAt

/-! ### Whom an input is for -/

variable [Pixel α] [DataSource σ] {p : Pipeline (BuiltIn α)} {m : Model α σ} {now : Float}
  {k : Nat} {f : BuiltIn α} {e : PointerEvent α}

/-- A press that no feature takes before the one at an index. -/
theorem getsTo_down (now : Float) (hf : p.features[k]? = some f) (hk : k < p.attachedCount)
    (hbefore : ∀ {i : Nat} {h : BuiltIn α}, i < k → p.features[i]? = some h →
      BuiltIn.takesPress m e h = false) :
  p.GetsTo m now (Input.pointer .down e) BuiltIn.afterPress k
    (f.handle (.pointer .down e) (p.turn m k now))
  := ⟨⟨f, hf, rfl⟩, hk, fun hi hh => BuiltIn.handsOn_down (hbefore hi hh)⟩

/-- A press that no other feature takes. -/
theorem isFor_down (now : Float) (hnames : p.features.map BuiltIn.name = defaultFeatures)
    (hf : p.features[k]? = some f) (hk : k < p.attachedCount)
    (hothers : ∀ {h : BuiltIn α}, h.name ≠ f.name → BuiltIn.takesPress m e h = false)
    (hbehind : (f.handle (.pointer .down e) (p.turn m k now)).result = .ok .pass →
      ∀ {h : BuiltIn α}, h.name ≠ f.name →
      BuiltIn.takesPress (f.handle (.pointer .down e) (p.turn m k now)).turn.model e h = false)
    (hrequest : (f.handle (.pointer .down e) (p.turn m k now)).turn.request = .none) :
  p.IsFor m now (Input.pointer .down e) BuiltIn.afterPress k
    (f.handle (.pointer .down e) (p.turn m k now))
  := by
  have hname {i : Nat} {h : BuiltIn α} (hi : i ≠ k) (hh : p.features[i]? = some h) :
      h.name ≠ f.name :=
    fun heq => hi (index_eq_of_name_eq hnames hh hf heq)
  constructor
  case toGetsTo =>
    apply getsTo_down now hf hk
    intro i h hi hh
    apply hothers (hname (Nat.ne_of_lt hi) hh)
  case behind =>
    intro i h hresult hi hh
    apply BuiltIn.handsOn_down (hbehind hresult (hname (Nat.ne_of_gt hi) hh))
  case request => apply hrequest

omit [Pixel α] in
/-- The default features are in places of their own; the one at an index sees inputs, and no other
one is in the middle of a drag. -/
structure IsLedBy (k : Nat) (f : BuiltIn α) (p : Pipeline (BuiltIn α)) : Prop where
  names : p.features.map BuiltIn.name = defaultFeatures
  own : p.features[k]? = some f
  attached : k < p.attachedCount
  rest : ∀ {i : Nat} {h : BuiltIn α}, i ≠ k → p.features[i]? = some h →
    h.isDragging = false ∧ h.isExtending = false

namespace IsLedBy

omit [Pixel α] [DataSource σ] in
theorem rest_afterPress {h : BuiltIn α} (hrest : h.isDragging = false ∧ h.isExtending = false) :
  h.afterPress.isDragging = false ∧ h.afterPress.isExtending = false
  := by
  cases h <;> exact hrest

omit [Pixel α] [DataSource σ] in
theorem rest_afterRelease {h : BuiltIn α} (hrest : h.isDragging = false ∧ h.isExtending = false) :
  h.afterRelease.isDragging = false ∧ h.afterRelease.isExtending = false
  := by
  cases h <;> first | exact hrest | exact ⟨rfl, rfl⟩

/-- What an input for the feature that leads leaves behind, if it leaves the others at rest. -/
theorem dispatch (h : p.IsLedBy k f) {input : Input α} {next : BuiltIn α → BuiltIn α}
    {r : Reply Flow (BuiltIn α) (Model α σ)} (hfor : p.IsFor m now input next k r)
    (hnext : ∀ {h : BuiltIn α}, h.isDragging = false ∧ h.isExtending = false →
      (next h).isDragging = false ∧ (next h).isExtending = false) :
  (p.dispatch m now input).pipeline.IsLedBy k r.feature
    ∧ (p.dispatch m now input).model = r.turn.model
  := by
  have hdelivered := hfor.dispatch
  refine ⟨?_, hdelivered.model_eq⟩
  constructor
  case names =>
    apply (Grid.keeps_names (σ := σ)).turns.dispatch (m := m) h.names now input
  case own => apply hdelivered.own
  case attached =>
    rw [hdelivered.resembles.attachedCount_eq]
    apply h.attached
  case rest =>
    intro i g hi hg
    obtain ⟨g', hg', rfl | rfl⟩ := hdelivered.resembles.exists_of_getElem? hi hg
    · apply h.rest hi hg'
    · apply hnext (h.rest hi hg')

/-- A drag is for the feature that leads. -/
theorem isFor_drag (h : p.IsLedBy k f) (m : Model α σ) (now : Float) (e : PointerEvent α)
    (hrequest : (f.handle (.pointer .drag e) (p.turn m k now)).turn.request = .none) :
  p.IsFor m now (Input.pointer .drag e) id k (f.handle (.pointer .drag e) (p.turn m k now))
  := by
  constructor
  case toGetsTo =>
    refine ⟨⟨f, h.own, rfl⟩, h.attached, ?_⟩
    intro i g hi hg
    obtain ⟨hdragging, hextending⟩ := h.rest (Nat.ne_of_lt hi) hg
    apply BuiltIn.handsOn_drag hdragging hextending
  case behind =>
    intro i g _ hi hg
    obtain ⟨hdragging, hextending⟩ := h.rest (Nat.ne_of_gt hi) hg
    apply BuiltIn.handsOn_drag hdragging hextending
  case request => apply hrequest

/-- A release is for the feature that leads. -/
theorem isFor_up (h : p.IsLedBy k f) (m : Model α σ) (now : Float) (e : PointerEvent α)
    (hrequest : (f.handle (.pointer .up e) (p.turn m k now)).turn.request = .none) :
  p.IsFor m now (Input.pointer .up e) BuiltIn.afterRelease k
    (f.handle (.pointer .up e) (p.turn m k now))
  := by
  constructor
  case toGetsTo =>
    refine ⟨⟨f, h.own, rfl⟩, h.attached, ?_⟩
    intro i g hi hg
    apply BuiltIn.handsOn_up (h.rest (Nat.ne_of_lt hi) hg).1
  case behind =>
    intro i g _ hi hg
    apply BuiltIn.handsOn_up (h.rest (Nat.ne_of_gt hi) hg).1
  case request => apply hrequest

end IsLedBy

omit [Pixel α] [DataSource σ] in
/-- The features are the default ones, the one at an index sees inputs and is as said, and no other
one is in the middle of a drag. -/
structure DragsAlone (k : Nat) (P : BuiltIn α → Prop) (p : Pipeline (BuiltIn α)) : Prop where
  names : p.features.map BuiltIn.name = defaultFeatures
  own : p.Has k P
  attached : k < p.attachedCount
  rest : ∀ {i : Nat} {f : BuiltIn α}, i ≠ k → p.features[i]? = some f → f.isDragging = false

/-- What an input for the feature at an index leaves behind, if it leaves the others at rest. -/
theorem dragsAlone_of_isFor (hnames : p.features.map BuiltIn.name = defaultFeatures)
    (hrest : ∀ {i : Nat} {f : BuiltIn α}, i ≠ k → p.features[i]? = some f → f.isDragging = false)
    {input : Input α} {next : BuiltIn α → BuiltIn α} {r : Reply Flow (BuiltIn α) (Model α σ)}
    (hfor : p.IsFor m now input next k r) {P : BuiltIn α → Prop} (hP : P r.feature)
    (hnext : ∀ {f : BuiltIn α}, f.isDragging = false → (next f).isDragging = false) :
  (p.dispatch m now input).pipeline.DragsAlone k P
    ∧ (p.dispatch m now input).model = r.turn.model
  := by
  have hdelivered := hfor.dispatch
  refine ⟨?_, hdelivered.model_eq⟩
  constructor
  case names => apply (Grid.keeps_names (σ := σ)).turns.dispatch (m := m) hnames now input
  case own => exact ⟨r.feature, hdelivered.own, hP⟩
  case attached =>
    rw [hdelivered.resembles.attachedCount_eq]
    apply hfor.attached
  case rest =>
    intro i f hi hf
    obtain ⟨g, hg, rfl | rfl⟩ := hdelivered.resembles.exists_of_getElem? hi hf
    · apply hrest hi hg
    · apply hnext (hrest hi hg)

/-- If the feature at the index does nothing when a timer goes off, ticks change nothing. -/
theorem DragsAlone.tick {P : BuiltIn α → Prop} (h : p.DragsAlone k P)
    (hfire : ∀ {f : BuiltIn α}, P f → ∀ (token : TimerToken) (t : GridTurn α σ),
      f.fire token t = ⟨.ok (), f, t⟩) (m : Model α σ) (now : Float) :
  (p.tick (Input α) m now).pipeline.DragsAlone k P
    ∧ (p.tick (Input α) m now).model = m
  := by
  apply tick_keeps (M := fun p' (m' : Model α σ) => p'.DragsAlone k P ∧ m' = m)
  case fire =>
    rintro i p' m' f token ⟨h, rfl⟩ hf
    have hidle : Feature.fire (Input α) f token (p'.turn m' i now)
        = ⟨.ok (), f, p'.turn m' i now⟩ := by
      by_cases hi : i = k
      · obtain ⟨f', hf', hP⟩ := h.own
        obtain rfl := Option.some.inj (hf'.symm.trans (hi ▸ hf))
        apply hfire hP
      · apply (BuiltIn.isAtRest_of_isDragging (h.rest hi hf)).fire
    rw [hidle, after_eq_self now hf rfl rfl]
    exact ⟨h, rfl⟩
  case reattach =>
    rintro p' m' ⟨h, rfl⟩
    refine ⟨⟨h.names, h.own, ?_, h.rest⟩, rfl⟩
    apply Nat.lt_of_lt_of_le h.attached p'.attachedCount_le
  case takeDue =>
    rintro p' m' ⟨h, rfl⟩
    exact ⟨⟨h.names, h.own, h.attached, h.rest⟩, rfl⟩
  case h => exact ⟨h, rfl⟩

end Pipeline

namespace Grid

variable [Pixel α] [DataSource σ] {g : Grid α σ (BuiltIn α)}

theorem IsStandard.isAttachable (h : g.IsStandard) :
  g.pipeline.IsAttachable movingIndex
  := by
  induction h with
  | new data schema config hp => exact .inr ⟨_, awaits_ofNames hp ⟨0, .reattach, 0⟩⟩
  | perform c _ ih => apply isAttachable_perform ih c
  | listen notifier _ ih => apply ih
  | edit m hm _ ih => apply ih

/-- The features up to the one that moves columns are never cut off. -/
theorem IsStandard.lt_attachedCount (h : g.IsStandard) {i : Nat} (hi : i ≤ movingIndex) :
  i < g.pipeline.attachedCount
  := Pipeline.lt_attachedCount_of_names h.names h.isAttachable.detachedAt_cases hi (by decide)

/-- What an event on a grid comes to, by what the features make of it. -/
theorem perform_pointer_of_eq {kind : PointerKind} {point : Point α} {button : Button}
    {modifiers : Modifiers} {P : Pipeline (BuiltIn α) → Prop} {m : Model α σ}
    (h : P (g.pipeline.dispatch g.model g.now
        (Input.pointer kind (g.pointerEvent point button modifiers))).pipeline
      ∧ (g.pipeline.dispatch g.model g.now
        (Input.pointer kind (g.pointerEvent point button modifiers))).model = m) :
  let g' := (g.perform (.pointer kind point button modifiers)).grid
  P g'.pipeline ∧ g'.model.still = m.still
  := by
  obtain ⟨hpipeline, hmodel⟩ := g.perform_pointer_eq kind point button modifiers
  obtain ⟨hP, rfl⟩ := h
  exact ⟨hpipeline ▸ hP, hmodel⟩

end Grid

end DataGrid
