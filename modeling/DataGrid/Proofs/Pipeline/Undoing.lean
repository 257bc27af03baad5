import DataGrid.Proofs.Feature.Names
import DataGrid.Proofs.Feature.Undoing
import DataGrid.Proofs.Pipeline.Gestures

/-!
# Drags that are taken back

In a pipeline of the default features, what is done in the middle of a drag can be taken back
(`Pipeline.IsRevocable`).  `Escape` comes to the feature that drags, and after it no feature
arranges anything (`Pipeline.IsDraggedBy.dispatch_escape`); it stays so until the next press
(`Pipeline.IsDisarmed`).
-/

namespace DataGrid

variable {α σ : Type}

namespace Pipeline

/-- No feature arranges anything, and nothing is drawn. -/
structure IsDisarmed (p : Pipeline (BuiltIn α)) (m : Model α σ) : Prop where
  rest : ∀ f ∈ p.features, f.isArranging = false
  overlays : m.overlays = .none

/-- The features are the default ones, and when what has been resized is put back, all columns are
as in `c`. -/
structure IsRevocable [Pixel α] (c : Columns α) (p : Pipeline (BuiltIn α)) (m : Model α σ) :
    Prop where
  names : p.features.map BuiltIn.name = defaultFeatures
  column?_eq : ∀ f ∈ p.features, f.name = "column_resizing" →
    ∀ id, (f.putBack m.columns).column? id = c.column? id

variable {p : Pipeline (BuiltIn α)} {m : Model α σ} {i k : Nat} {f : BuiltIn α}

/-- Nothing begins if nothing more is drawn. -/
theorem IsDisarmed.congr {m' : Model α σ} (h : p.IsDisarmed m)
    (hm : m'.overlays = m.overlays ∨ m'.overlays = .none) :
  p.IsDisarmed m'
  := by
  refine ⟨h.rest, ?_⟩
  obtain hm | hm := hm
  · apply hm.trans h.overlays
  · apply hm

theorem IsClean.isDisarmed (h : p.IsClean m) :
  p.IsDisarmed m
  := ⟨fun f hf => BuiltIn.isArranging_eq_false (h.rest f hf), h.overlays⟩

/-- A drag that arranges nothing draws nothing. -/
theorem IsDraggedBy.isDisarmed (h : p.IsDraggedBy k m) (hf : p.features[k]? = some f)
    (harranging : f.isArranging = false) :
  p.IsDisarmed m
  := by
  obtain ⟨f', hf', hdragging, hundrawn⟩ := h.dragging
  obtain rfl := Option.some.inj (hf.symm.trans hf')
  constructor
  case rest =>
    intro g hg
    obtain ⟨j, hj⟩ := List.mem_iff_getElem?.mp hg
    by_cases hjk : j = k
    · obtain rfl := hjk
      obtain rfl := Option.some.inj (hf.symm.trans hj)
      apply harranging
    · apply BuiltIn.isArranging_eq_false (h.rest hj hjk)
  case overlays =>
    rw [BuiltIn.undrawn_eq_self hdragging harranging] at hundrawn
    apply hundrawn

/-- The features after the one that selects cells arrange nothing. -/
theorem isArranging_of_cellSelection_lt (hnames : p.features.map BuiltIn.name = defaultFeatures)
    {g : BuiltIn α} (hf : p.features[i]? = some f) (hname : f.name = "cell_selection")
    (hg : p.features[k]? = some g) (hik : i < k) :
  g.isArranging = false
  := by
  have hi := getElem?_name hnames hf
  have hk := getElem?_name hnames hg
  obtain ⟨hlt, -⟩ := List.getElem?_eq_some_iff.mp hi
  obtain ⟨hlt', -⟩ := List.getElem?_eq_some_iff.mp hk
  have hcells : defaultFeatures[i]? = defaultFeatures[7]? := by
    rw [hi, hname]
    rfl
  obtain rfl : i = 7 := (List.getElem?_inj hlt (by decide)).mp hcells
  have hlast : g.name = "key_paging" ∨ g.name = "context_menu" := by
    obtain rfl | rfl : k = 8 ∨ k = 9 := by
      change k < 10 at hlt'
      omega
    · exact .inl (Option.some.inj hk).symm
    · exact .inr (Option.some.inj hk).symm
  cases g with
  | columnFixation | rowFixation | columnResizing | columnMoving => simp [BuiltIn.name] at hlast
  | _ => rfl

/-! ### One turn -/

variable [Pixel α] [DataSource σ] {c : Columns α} {input : Input α}

omit [DataSource σ] in
/-- Only the columns count. -/
theorem IsRevocable.congr (h : p.IsRevocable c m) {m' : Model α σ}
    (hm : ∀ id, m'.columns.column? id = m.columns.column? id) :
  p.IsRevocable c m'
  := by
  constructor
  case names => apply h.names
  case column?_eq =>
    intro f hf hname id
    rw [f.column?_putBack_congr hm]
    apply h.column?_eq f hf hname

omit [DataSource σ] in
/-- Where nothing is resized, there is nothing to put back. -/
theorem IsRevocable.column?_of_rest (h : p.IsRevocable c m)
    (hrest : ∀ f ∈ p.features, f.isArranging = false) (id : ColumnId) :
  m.columns.column? id = c.column? id
  := by
  have hresizing : "column_resizing" ∈ p.features.map BuiltIn.name := by
    rw [h.names]
    decide
  obtain ⟨f, hf, hname⟩ := List.mem_map.mp hresizing
  have hput := h.column?_eq f hf hname id
  rw [f.putBack_eq_self (f.resizeDrag?_eq_none (hrest f hf))] at hput
  apply hput

omit [DataSource σ] in
/-- Another feature than the one that resizes columns leaves them alone, and that one can put back
after its turn what it could before. -/
theorem IsRevocable.after {β : Type} (h : p.IsRevocable c m) (hf : p.features[i]? = some f)
    {now : Float} {r : Reply β (BuiltIn α) (Model α σ)} (hname : r.feature.name = f.name)
    (hput : ∀ id, (r.feature.putBack r.turn.model.columns).column? id
      = (f.putBack m.columns).column? id) :
  (p.after i now r).IsRevocable c r.turn.model
  := by
  constructor
  case names => apply (names_after hf hname).trans h.names
  case column?_eq =>
    intro g hg hresizing id
    obtain ⟨j, hj⟩ := List.mem_iff_getElem?.mp hg
    rw [features_after] at hj
    obtain ⟨-, rfl⟩ | ⟨hne, hold⟩ := getElem?_set_cases hj
    · rw [hput]
      apply h.column?_eq f (List.mem_of_getElem? hf) (hname.symm.trans hresizing)
    · have hother : f.name ≠ "column_resizing" := by
        intro hsame
        apply hne
        apply index_eq_of_name_eq h.names hold hf (hresizing.trans hsame.symm)
      have hother' : r.feature.name ≠ "column_resizing" := hname ▸ hother
      have hcolumns (id : ColumnId) : r.turn.model.columns.column? id = m.columns.column? id := by
        have hsame := hput id
        rw [BuiltIn.putBack_eq_self (BuiltIn.resizeDrag?_of_name hother),
          BuiltIn.putBack_eq_self (BuiltIn.resizeDrag?_of_name hother')] at hsame
        apply hsame
      rw [g.column?_putBack_congr hcolumns]
      apply h.column?_eq g (List.mem_of_getElem? hold) hresizing

/-- A turn of a feature can be taken back, unless it is the end of a drag. -/
theorem IsRevocable.turn (h : p.IsRevocable c m) (hf : p.features[i]? = some f)
    (hpress : input.isPress = true → f.isDragging = false
      ∧ ∀ id d, m.columns.column? id = some d → d.IsWithinLimits)
    (hrelease : input.isRelease = true → f.isArranging = false)
    (hdouble : input.isDoubleClick = false) (now : Float) :
  let r := f.handle input (p.turn m i now)
  (p.after i now r).IsRevocable c r.turn.model ∧ m.Spares r.turn.model
  := by
  constructor
  · apply h.after hf (f.name_handle input _)
    apply BuiltIn.column?_putBack_handle hpress hrelease hdouble
  · exact BuiltIn.spares_handle (t := p.turn m i now) hrelease hdouble

omit [Pixel α] [DataSource σ] in
theorem IsDisarmed.after {β : Type} (h : p.IsDisarmed m) {now : Float}
    {r : Reply β (BuiltIn α) (Model α σ)} (hfeature : r.feature.isArranging = false)
    (hoverlays : r.turn.model.overlays = m.overlays) :
  (p.after i now r).IsDisarmed r.turn.model
  := by
  constructor
  case rest =>
    intro g hg
    rw [features_after] at hg
    obtain hg | rfl := List.mem_or_eq_of_mem_set hg
    · apply h.rest g hg
    · apply hfeature
  case overlays => apply hoverlays.trans h.overlays

/-- Nothing is arranged before the next press. -/
theorem IsDisarmed.turn (h : p.IsDisarmed m) (hf : p.features[i]? = some f)
    (hpress : input.isPress = false) (now : Float) :
  let r := f.handle input (p.turn m i now)
  (p.after i now r).IsDisarmed r.turn.model
  := by
  intro r
  obtain ⟨hfeature, hoverlays⟩ := BuiltIn.isArranging_handle (t := p.turn m i now)
    (h.rest f (List.mem_of_getElem? hf)) hpress
  apply h.after hfeature hoverlays

/-! ### A whole input -/

/-- An input can be taken back if it neither begins nor ends a drag that arranges anything. -/
theorem IsRevocable.dispatch (h : p.IsRevocable c m) (hpress : input.isPress = false)
    (hrelease : input.isRelease = true → p.IsDisarmed m) (hdouble : input.isDoubleClick = false)
    (now : Float) :
  (p.dispatch m now input).pipeline.IsRevocable c (p.dispatch m now input).model
    ∧ m.Spares (p.dispatch m now input).model
  := by
  have hdispatch : let o := p.dispatch m now input
      (input.isRelease = true → o.pipeline.IsDisarmed o.model)
        ∧ o.pipeline.IsRevocable c o.model ∧ m.Spares o.model := by
    apply dispatch_keeps (M := fun p' m' =>
      (input.isRelease = true → p'.IsDisarmed m') ∧ p'.IsRevocable c m' ∧ m.Spares m')
    case turn =>
      rintro i p m' f ⟨hdisarmed, hrevocable, hspares⟩ hf -
      have hturn := hrevocable.turn hf (fun hdown => by cases hpress.symm.trans hdown)
        (fun hup => (hdisarmed hup).rest f (List.mem_of_getElem? hf)) hdouble now
      exact ⟨fun hup => (hdisarmed hup).turn hf hpress now, hturn.1, hspares.trans hturn.2⟩
    case h => exact ⟨hrelease, h, .of_eq rfl rfl rfl⟩
  exact hdispatch.2

/-- A press can be taken back if no feature has been dragging. -/
theorem IsRevocable.dispatch_press (h : p.IsRevocable c m) (hclean : p.IsClean m)
    (hlimits : ∀ id d, c.column? id = some d → d.IsWithinLimits) (now : Float)
    (e : PointerEvent α) :
  let o := p.dispatch m now (Input.pointer .down e)
  o.pipeline.IsRevocable c o.model ∧ m.Spares o.model
  := by
  have turn {i : Nat} {p : Pipeline (BuiltIn α)} {m : Model α σ} {f : BuiltIn α}
      (hclean : p.IsClean m) (h : p.IsRevocable c m) (hf : p.features[i]? = some f) :
      let r := f.handle (Input.pointer .down e) (p.turn m i now)
      (p.after i now r).IsRevocable c r.turn.model ∧ m.Spares r.turn.model := by
    have hrest : f.isDragging = false := hclean.isDragging_eq hf
    apply h.turn hf _ _ rfl
    · intro _
      refine ⟨hrest, ?_⟩
      intro id d hd
      rw [h.column?_of_rest hclean.isDisarmed.rest] at hd
      apply hlimits id d hd
    · intro _
      apply BuiltIn.isArranging_eq_false hrest
  apply dispatch_rule
    (C := fun _ p' m' => p'.IsClean m' ∧ p'.IsRevocable c m' ∧ m.Spares m')
    (D := fun p' m' => p'.IsRevocable c m' ∧ m.Spares m')
  case start => exact ⟨hclean, h, .of_eq rfl rfl rfl⟩
  case pass =>
    rintro i p m' f ⟨hclean, h, hspares⟩ hf hi hresult
    obtain ⟨hrevocable, hspares'⟩ := turn hclean h hf
    obtain hstill | ⟨-, hstop, -⟩ := hclean.turn hf hi now (Input.pointer .down e)
    · exact ⟨hstill, hrevocable, hspares.trans hspares'⟩
    · cases hstop.symm.trans hresult
  case stop =>
    rintro i p m' f ⟨hclean, h, hspares⟩ hf - -
    obtain ⟨hrevocable, hspares'⟩ := turn hclean h hf
    exact ⟨hrevocable, hspares.trans hspares'⟩
  case done =>
    rintro i p m' ⟨-, h, hspares⟩ -
    exact ⟨h, hspares⟩

theorem IsDisarmed.dispatch (h : p.IsDisarmed m) (hpress : input.isPress = false) (now : Float) :
  (p.dispatch m now input).pipeline.IsDisarmed (p.dispatch m now input).model
  := by
  apply dispatch_keeps (M := IsDisarmed) _ h
  intro i p m f h hf _
  apply h.turn hf hpress

/-! ### Timers -/

theorem IsRevocable.tick (h : p.IsRevocable c m) (now : Float) :
  (p.tick (Input α) m now).pipeline.IsRevocable c (p.tick (Input α) m now).model
    ∧ m.Spares (p.tick (Input α) m now).model
  := by
  apply tick_keeps (M := fun p' m' => p'.IsRevocable c m' ∧ m.Spares m')
  case fire =>
    rintro i p m' f token ⟨h, hspares⟩ hf
    constructor
    · apply h.after hf (f.name_fire token _)
      intro id
      rw [f.putBack_fire]
      rfl
    · apply hspares.trans (f.roams_fire token (p.turn m' i now)).spares
  case reattach =>
    rintro p m' ⟨h, hspares⟩
    exact ⟨⟨h.names, h.column?_eq⟩, hspares⟩
  case takeDue =>
    rintro p m' ⟨h, hspares⟩
    exact ⟨⟨h.names, h.column?_eq⟩, hspares⟩
  case h => exact ⟨h, .of_eq rfl rfl rfl⟩

theorem IsDisarmed.tick (h : p.IsDisarmed m) (now : Float) :
  (p.tick (Input α) m now).pipeline.IsDisarmed (p.tick (Input α) m now).model
  := by
  apply tick_keeps (M := IsDisarmed) _ _ _ h
  · intro i p m f token h hf
    obtain ⟨hfeature, hoverlays⟩ :=
      f.isArranging_fire (h.rest f (List.mem_of_getElem? hf)) token (p.turn m i now)
    apply h.after hfeature hoverlays
  · intro p m h
    exact ⟨h.rest, h.overlays⟩
  · intro p m h
    exact ⟨h.rest, h.overlays⟩

/-! ### Held columns -/

omit [Pixel α] [DataSource σ] in
/-- Columns are held. -/
def IsHolding (p : Pipeline (BuiltIn α)) : Prop :=
  ∃ f ∈ p.features, f.columnDrag?.isSome = true

omit [Pixel α] [DataSource σ] in
theorem IsHolding.after {β : Type} (h : p.IsHolding) (hf : p.features[i]? = some f) {now : Float}
    {r : Reply β (BuiltIn α) (Model α σ)}
    (hheld : r.feature.columnDrag?.isSome = f.columnDrag?.isSome) :
  (p.after i now r).IsHolding
  := by
  obtain hdrag | hother := exists_mem_features_after hf now r h
  · exact ⟨r.feature, mem_features_after hf now r, hheld.trans hdrag⟩
  · apply hother

/-- Columns that are held go on being held when they are dragged. -/
theorem IsHolding.dispatch_drag (h : p.IsHolding) (m : Model α σ) (now : Float)
    (e : PointerEvent α) :
  (p.dispatch m now (Input.pointer .drag e)).pipeline.IsHolding
  := by
  apply dispatch_keeps (M := fun p' _ => p'.IsHolding) _ h
  intro i p m f h hf _
  apply h.after hf (f.isSome_columnDrag?_drag e _)

theorem IsHolding.tick (h : p.IsHolding) (m : Model α σ) (now : Float) :
  (p.tick (Input α) m now).pipeline.IsHolding
  := by
  apply tick_keeps (M := fun p' _ => p'.IsHolding) _ _ _ h
  · intro i p m f token h hf
    apply h.after hf (f.isSome_columnDrag?_fire token _)
  · intro p m h
    apply h
  · intro p m h
    apply h

/-! ### Escape -/

omit [Pixel α] [DataSource σ] in
/-- Columns are held by the feature that drags. -/
theorem IsDraggedBy.exists_of_isHolding (h : p.IsDraggedBy k m) (hheld : p.IsHolding) :
  ∃ s d, p.features[k]? = some (.columnMoving s) ∧ s.drag? = some d
  := by
  obtain ⟨f, hf, hdrag⟩ := hheld
  obtain ⟨j, hj⟩ := List.mem_iff_getElem?.mp hf
  cases f with
  | columnMoving s =>
    obtain ⟨d, hd⟩ := Option.isSome_iff_exists.mp hdrag
    have hjk : j = k := by
      apply Decidable.byContradiction
      intro hne
      cases (h.rest hj hne).symm.trans hdrag
    exact ⟨s, d, hjk ▸ hj, hd⟩
  | _ => cases hdrag

/-- The feature that drags sees `Escape`. -/
theorem IsDraggedBy.turn_escape (h : p.IsDraggedBy k m) (hf : p.features[k]? = some f)
    {e : KeyEvent} (he : e.key = "Escape") (now : Float) :
  let r := f.handle (.key .down e) (p.turn m k now)
  (p.after k now r).IsDisarmed r.turn.model
  := by
  obtain ⟨hlt, -⟩ := List.getElem?_eq_some_iff.mp hf
  have hpress : (Input.key .down e : Input α).isPress = false := rfl
  obtain ⟨hstill, -⟩ | hclean := h.turn hf hpress now
  · apply hstill.isDisarmed _ (f.isArranging_escape he (p.turn m k now))
    rw [features_after]
    apply List.getElem?_set_self hlt
  · apply hclean.isDisarmed

/-- If another feature sees `Escape` first and stops it, it is the one that selects cells, and then
nothing is being arranged. -/
theorem IsDraggedBy.stop_escape (h : p.IsDraggedBy k m)
    (hnames : p.features.map BuiltIn.name = defaultFeatures) (hf : p.features[i]? = some f)
    (hik : i < k) {e : KeyEvent} (he : e.key = "Escape") {now : Float}
    (hresult : (f.handle (.key .down e) (p.turn m i now)).result ≠ .ok .pass) :
  let r := f.handle (.key .down e) (p.turn m i now)
  (p.after i now r).IsDisarmed r.turn.model ∧ ¬ p.IsHolding
  := by
  have hne : i ≠ k := Nat.ne_of_lt hik
  have hname : f.name = "cell_selection" := by
    apply Decidable.byContradiction
    intro hname
    apply hresult (BuiltIn.result_escape (h.rest hf hne) hname he _)
  obtain ⟨g, hg, -⟩ := h.dragging
  have harranging : g.isArranging = false :=
    isArranging_of_cellSelection_lt hnames hf hname hg hik
  have hpress : (Input.key .down e : Input α).isPress = false := rfl
  constructor
  · apply (h.turn_other hf hne hpress now).1.isDisarmed _ harranging
    rw [features_after, List.getElem?_set_ne hne, hg]
  · intro hheld
    obtain ⟨s, d, hs, hd⟩ := h.exists_of_isHolding hheld
    obtain rfl := Option.some.inj (hg.symm.trans hs)
    rw [BuiltIn.isArranging, hd] at harranging
    cases harranging

/-- `Escape` comes to the feature that drags, or to none that arranges anything; and the features
are all attached after it if columns were held. -/
theorem IsEngaged.dispatch_escape (h : p.IsEngaged m)
    (hnames : p.features.map BuiltIn.name = defaultFeatures) {e : KeyEvent}
    (he : e.key = "Escape") (now : Float) :
  let o := p.dispatch m now (Input.key .down e : Input α)
  o.pipeline.IsDisarmed o.model ∧ (p.IsHolding → o.pipeline.detachedAt = none)
  := by
  have hpress : (Input.key .down e : Input α).isPress = false := rfl
  -- the feature that drags is yet to see the key, or else no columns were held
  apply dispatch_rule
    (C := fun i p' m' => p'.features.map BuiltIn.name = defaultFeatures
      ∧ ((∃ k, i ≤ k ∧ p'.IsDraggedBy k m' ∧ (p.IsHolding → p'.IsHolding))
        ∨ p'.IsDisarmed m' ∧ ¬ p.IsHolding))
    (D := fun p' m' => p'.IsDisarmed m' ∧ (p.IsHolding → p'.detachedAt = none))
  case start =>
    refine ⟨hnames, ?_⟩
    obtain h | ⟨k, h⟩ := h
    · refine .inr ⟨h.isDisarmed, ?_⟩
      rintro ⟨f, hf, hdrag⟩
      rw [(BuiltIn.isAtRest_of_isDragging (h.rest f hf)).columnDrag?_eq] at hdrag
      cases hdrag
    · exact .inl ⟨k, Nat.zero_le k, h, id⟩
  case pass =>
    rintro i p' m' f ⟨hnames, hstate⟩ hf hi hresult
    refine ⟨(names_after hf (f.name_handle _ _)).trans hnames, ?_⟩
    obtain ⟨k, hik, h, hheld⟩ | ⟨h, hfree⟩ := hstate
    · obtain rfl | hlt := Nat.eq_or_lt_of_le hik
      · refine .inr ⟨h.turn_escape hf he now, ?_⟩
        intro hp
        obtain ⟨s, d, hs, hd⟩ := h.exists_of_isHolding (hheld hp)
        obtain rfl := Option.some.inj (hf.symm.trans hs)
        change ((BuiltIn.columnMoving s).handle _ _).result = _ at hresult
        rw [BuiltIn.handle_escape_of_held hd he] at hresult
        cases hresult
      · have hne : i ≠ k := Nat.ne_of_lt hlt
        obtain ⟨hother, -⟩ := h.turn_other hf hne hpress now
        refine .inl ⟨k, hlt, hother, fun hp => ?_⟩
        obtain ⟨s, d, hs, hd⟩ := h.exists_of_isHolding (hheld hp)
        refine ⟨.columnMoving s, ?_, congrArg Option.isSome hd⟩
        rw [features_after]
        apply List.mem_of_getElem? ((List.getElem?_set_ne hne).trans hs)
    · exact .inr ⟨h.turn hf hpress now, hfree⟩
  case stop =>
    rintro i p' m' f ⟨hnames, hstate⟩ hf hi hresult
    obtain ⟨k, hik, h, hheld⟩ | ⟨h, hfree⟩ := hstate
    · obtain rfl | hlt := Nat.eq_or_lt_of_le hik
      · refine ⟨h.turn_escape hf he now, fun hp => ?_⟩
        obtain ⟨s, d, hs, hd⟩ := h.exists_of_isHolding (hheld hp)
        obtain rfl := Option.some.inj (hf.symm.trans hs)
        change (p'.after i now ((BuiltIn.columnMoving s).handle _ _)).detachedAt = none
        rw [BuiltIn.handle_escape_of_held hd he, after_of_request_reattachNow p' i now rfl]
      · obtain ⟨hdisarmed, hfree⟩ := h.stop_escape hnames hf hlt he hresult
        exact ⟨hdisarmed, fun hp => absurd (hheld hp) hfree⟩
    · exact ⟨h.turn hf hpress now, fun hp => absurd hp hfree⟩
  case done =>
    rintro i p' m' ⟨-, ⟨k, hik, h, -⟩ | ⟨h, hfree⟩⟩ hcount
    · have hattached := h.attached
      omega
    · exact ⟨h, fun hp => absurd hp hfree⟩

end Pipeline

end DataGrid
