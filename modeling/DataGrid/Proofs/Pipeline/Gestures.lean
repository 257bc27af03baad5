import DataGrid.Proofs.Feature.Gesture
import DataGrid.Proofs.Pipeline.Rules

/-!
# Gestures in a pipeline

Between gestures no feature drags and nothing is drawn (`Pipeline.IsClean`).  In the middle of one
a single feature drags, it is not cut off, and it alone draws (`Pipeline.IsDraggedBy`).  A press
can lead from the one to the other, a release leads back, and nothing else leads to a second drag.
-/

namespace DataGrid

variable {α σ : Type}

namespace Pipeline

variable {φ μ : Type}

/-- A turn in which the features after this one are not cut off leaves as many attached. -/
theorem attachedCount_le_after {β : Type} (p : Pipeline φ) (index : Nat) (now : Float)
    {r : Reply β φ μ} (h : r.turn.request.detach = false) :
  p.attachedCount ≤ (p.after index now r).attachedCount
  := by
  rw [attachedCount, attachedCount, features_after, List.length_set, after, grant, h]
  cases r.turn.request.reattachNow with
  | false =>
    cases r.turn.request.reattachAfter <;> apply Nat.le_refl
  | true =>
    have hle : p.attachedCount ≤ p.features.length := p.attachedCount_le
    cases r.turn.request.reattachAfter <;> apply hle

/-- Whatever a feature asks for, it goes on seeing inputs. -/
theorem lt_attachedCount_after {β : Type} {p : Pipeline φ} {index : Nat}
    (h : index < p.attachedCount) (now : Float) (r : Reply β φ μ) :
  index < (p.after index now r).attachedCount
  := by
  have hlt : index < p.features.length := Nat.lt_of_lt_of_le h p.attachedCount_le
  cases hdetach : r.turn.request.detach with
  | false => apply Nat.lt_of_lt_of_le h (p.attachedCount_le_after index now hdetach)
  | true =>
    rw [attachedCount, features_after, List.length_set, after, grant, hdetach]
    cases r.turn.request.reattachNow with
    | false =>
      cases r.turn.request.reattachAfter <;> apply Nat.lt_min.mpr ⟨Nat.lt_succ_self _, hlt⟩
    | true =>
      cases r.turn.request.reattachAfter <;> apply hlt

/-- No feature drags, and nothing is drawn. -/
structure IsClean (p : Pipeline (BuiltIn α)) (m : Model α σ) : Prop where
  rest : ∀ f ∈ p.features, f.isDragging = false
  overlays : m.overlays = .none

/-- The feature at an index drags and sees inputs, it alone does so, and it alone draws. -/
structure IsDraggedBy (index : Nat) (p : Pipeline (BuiltIn α)) (m : Model α σ) : Prop where
  dragging : ∃ f, p.features[index]? = some f ∧ f.isDragging = true ∧ f.undrawn m.overlays = .none
  rest : ∀ {i : Nat} {f : BuiltIn α}, p.features[i]? = some f → i ≠ index → f.isDragging = false
  attached : index < p.attachedCount

/-- No two features drag. -/
def IsExclusive (p : Pipeline (BuiltIn α)) : Prop :=
  ∀ (i j : Nat) (f g : BuiltIn α), p.features[i]? = some f → p.features[j]? = some g →
    f.isDragging = true → g.isDragging = true → i = j

/-- The pipeline is clean, or one feature drags. -/
def IsEngaged (p : Pipeline (BuiltIn α)) (m : Model α σ) : Prop :=
  p.IsClean m ∨ ∃ index, p.IsDraggedBy index m

theorem IsClean.isDragging_eq {p : Pipeline (BuiltIn α)} {m : Model α σ} (h : p.IsClean m)
    {i : Nat} {f : BuiltIn α} (hf : p.features[i]? = some f) :
  f.isDragging = false
  := h.rest f (List.mem_of_getElem? hf)

/-- Nothing changes if what is drawn stays or is taken away. -/
theorem IsClean.congr {p : Pipeline (BuiltIn α)} {m m' : Model α σ} (h : p.IsClean m)
    (hm : m'.overlays = m.overlays ∨ m'.overlays = .none) :
  p.IsClean m'
  := by
  refine ⟨h.rest, ?_⟩
  obtain hm | hm := hm
  · apply hm.trans h.overlays
  · apply hm

theorem IsDraggedBy.congr {p : Pipeline (BuiltIn α)} {m m' : Model α σ} {k : Nat}
    (h : p.IsDraggedBy k m) (hm : m'.overlays = m.overlays ∨ m'.overlays = .none) :
  p.IsDraggedBy k m'
  := by
  obtain ⟨f, hf, hdragging, hundrawn⟩ := h.dragging
  refine ⟨⟨f, hf, hdragging, ?_⟩, h.rest, h.attached⟩
  obtain hm | hm := hm
  · rw [hm, hundrawn]
  · rw [hm]
    cases f <;> rfl

theorem IsEngaged.congr {p : Pipeline (BuiltIn α)} {m m' : Model α σ} (h : p.IsEngaged m)
    (hm : m'.overlays = m.overlays ∨ m'.overlays = .none) :
  p.IsEngaged m'
  := by
  obtain h | ⟨k, h⟩ := h
  · exact .inl (h.congr hm)
  · exact .inr ⟨k, h.congr hm⟩

/-- The features that drag are one and the same. -/
theorem IsEngaged.isExclusive {p : Pipeline (BuiltIn α)} {m : Model α σ} (h : p.IsEngaged m) :
  p.IsExclusive
  := by
  intro i j f g hf hg hfd hgd
  obtain h | ⟨k, h⟩ := h
  · rw [h.isDragging_eq hf] at hfd
    cases hfd
  · have index_eq {l : Nat} {f : BuiltIn α} (hl : p.features[l]? = some f)
        (hdragging : f.isDragging = true) : l = k := by
      apply Decidable.byContradiction
      intro hne
      rw [h.rest hl hne] at hdragging
      cases hdragging
    rw [index_eq hf hfd, index_eq hg hgd]

/-! ### One turn -/

section Turns

variable {β : Type} {p : Pipeline (BuiltIn α)} {m : Model α σ} {i k : Nat} {f : BuiltIn α}
  {now : Float} {r : Reply β (BuiltIn α) (Model α σ)}

/-- The feature that has a turn stays at rest and draws nothing. -/
theorem IsClean.after (h : p.IsClean m) (hfeature : r.feature.isDragging = false)
    (hoverlays : r.turn.model.overlays = m.overlays) :
  (p.after i now r).IsClean r.turn.model
  := by
  constructor
  case rest =>
    intro g hg
    rw [features_after] at hg
    obtain hg | rfl := List.mem_or_eq_of_mem_set hg
    · apply h.rest g hg
    · apply hfeature
  case overlays => apply hoverlays.trans h.overlays

/-- The feature that has a turn is at rest, and another one drags. -/
theorem IsDraggedBy.after_other (h : p.IsDraggedBy k m) (hi : i ≠ k)
    (hfeature : r.feature.isDragging = false) (hoverlays : r.turn.model.overlays = m.overlays)
    (hdetach : r.turn.request.detach = false) :
  (p.after i now r).IsDraggedBy k r.turn.model
  := by
  obtain ⟨f, hf, hdragging, hundrawn⟩ := h.dragging
  constructor
  case dragging =>
    refine ⟨f, ?_, hdragging, ?_⟩
    · rw [features_after, List.getElem?_set_ne hi, hf]
    · rw [hoverlays, hundrawn]
  case rest =>
    intro j g hg hj
    rw [features_after] at hg
    obtain ⟨-, rfl⟩ | ⟨-, hold⟩ := getElem?_set_cases hg
    · apply hfeature
    · apply h.rest hold hj
  case attached => apply Nat.lt_of_lt_of_le h.attached (p.attachedCount_le_after i now hdetach)

/-- The feature that has a turn drags, and all others are at rest. -/
theorem isDraggedBy_after (hi : i < p.attachedCount)
    (hrest : ∀ {j : Nat} {g : BuiltIn α}, p.features[j]? = some g → j ≠ i → g.isDragging = false)
    (hfeature : r.feature.isDragging = true)
    (hundrawn : r.feature.undrawn r.turn.model.overlays = .none) :
  (p.after i now r).IsDraggedBy i r.turn.model
  := by
  have hlt : i < p.features.length := Nat.lt_of_lt_of_le hi p.attachedCount_le
  constructor
  case dragging =>
    refine ⟨r.feature, ?_, hfeature, hundrawn⟩
    rw [features_after, List.getElem?_set_self hlt]
  case rest =>
    intro j g hg hj
    rw [features_after] at hg
    obtain ⟨rfl, -⟩ | ⟨-, hold⟩ := getElem?_set_cases hg
    · cases hj rfl
    · apply hrest hold hj
  case attached => apply lt_attachedCount_after hi

/-- The feature that has dragged stops. -/
theorem IsDraggedBy.after_ends (h : p.IsDraggedBy k m) (hf : p.features[k]? = some f)
    (hfeature : r.feature.isDragging = false)
    (hoverlays : r.turn.model.overlays = f.undrawn m.overlays) :
  (p.after k now r).IsClean r.turn.model
  := by
  obtain ⟨f', hf', -, hundrawn⟩ := h.dragging
  obtain rfl := Option.some.inj (hf.symm.trans hf')
  constructor
  case rest =>
    intro g hg
    obtain ⟨j, hj⟩ := List.mem_iff_getElem?.mp hg
    rw [features_after] at hj
    obtain ⟨-, rfl⟩ | ⟨hne, hold⟩ := getElem?_set_cases hj
    · apply hfeature
    · apply h.rest hold hne
  case overlays => rw [hoverlays, hundrawn]

end Turns

variable [Pixel α] [DataSource σ] {p : Pipeline (BuiltIn α)} {m : Model α σ} {i k : Nat}
  {f : BuiltIn α} {now : Float} {input : Input α}

/-- What may become of a clean pipeline: a press may begin a drag, and then it goes no further. -/
theorem IsClean.turn (h : p.IsClean m) (hf : p.features[i]? = some f) (hi : i < p.attachedCount)
    (now : Float) (input : Input α) :
  let r := f.handle input (p.turn m i now)
  (p.after i now r).IsClean r.turn.model
    ∨ input.isPress = true ∧ r.result = .ok .stop ∧ (p.after i now r).IsDraggedBy i r.turn.model
  := by
  have hrest : f.isDragging = false := h.isDragging_eq hf
  have hgestures := f.gestures_handle input (p.turn m i now) (.inr hrest)
  generalize f.handle input (p.turn m i now) = r at hgestures
  cases hgestures with
  | rests before after overlays request result => exact .inl (h.after after overlays)
  | grabs press before result after overlays request =>
    refine .inr ⟨press, result, isDraggedBy_after hi ?_ after ?_⟩
    · intro j g hg _
      apply h.isDragging_eq hg
    · change r.feature.undrawn r.turn.model.overlays = r.feature.undrawn m.overlays at overlays
      rw [overlays, h.overlays]
      cases r.feature <;> rfl
  | drags before => cases hrest.symm.trans before
  | ends before => cases hrest.symm.trans before

/-- While one feature drags, another one does nothing for a drag, and hands a release on. -/
theorem IsDraggedBy.turn_other (h : p.IsDraggedBy k m) (hf : p.features[i]? = some f) (hik : i ≠ k)
    (hinput : input.isPress = false) (now : Float) :
  let r := f.handle input (p.turn m i now)
  (p.after i now r).IsDraggedBy k r.turn.model ∧ (input.isRelease = true → r.result = .ok .pass)
  := by
  have hrest : f.isDragging = false := h.rest hf hik
  have hgestures := f.gestures_handle input (p.turn m i now) (.inl hinput)
  generalize f.handle input (p.turn m i now) = r at hgestures
  cases hgestures with
  | rests before after overlays request result =>
    refine ⟨h.after_other hik after overlays ?_, result⟩
    rw [request]
    rfl
  | grabs press => cases hinput.symm.trans press
  | drags before => cases hrest.symm.trans before
  | ends before => cases hrest.symm.trans before

/-- What may become of a drag, if there is no press: a release ends it when it comes to the feature
that drags, and goes on until then. -/
theorem IsDraggedBy.turn (h : p.IsDraggedBy k m) (hf : p.features[i]? = some f)
    (hinput : input.isPress = false) (now : Float) :
  let r := f.handle input (p.turn m i now)
  (p.after i now r).IsDraggedBy k r.turn.model
      ∧ (input.isRelease = true → i ≠ k ∧ r.result = .ok .pass)
    ∨ (p.after i now r).IsClean r.turn.model
  := by
  by_cases hik : i = k
  · obtain rfl := hik
    obtain ⟨f', hf', hdragging, hundrawn⟩ := h.dragging
    obtain rfl := Option.some.inj (hf.symm.trans hf')
    have hgestures := f.gestures_handle input (p.turn m i now) (.inl hinput)
    generalize f.handle input (p.turn m i now) = r at hgestures
    cases hgestures with
    | rests before => cases hdragging.symm.trans before
    | grabs press before => cases hdragging.symm.trans before
    | drags before release after undrawn overlays request =>
      refine .inl ⟨isDraggedBy_after h.attached h.rest after ?_, ?_⟩
      · change f.undrawn r.turn.model.overlays = f.undrawn m.overlays at overlays
        rw [undrawn, overlays, hundrawn]
      · intro hrelease
        cases release.symm.trans hrelease
    | ends before after overlays request => exact .inr (h.after_ends hf after overlays)
  · obtain ⟨hother, hrelease⟩ := h.turn_other hf hik hinput now
    exact .inl ⟨hother, fun hup => ⟨hik, hrelease hup⟩⟩

/-! ### A whole input -/

/-- Without a press no drag begins. -/
theorem IsClean.dispatch (h : p.IsClean m) (hinput : input.isPress = false) (now : Float) :
  (p.dispatch m now input).pipeline.IsClean (p.dispatch m now input).model
  := by
  apply dispatch_keeps (M := IsClean) _ h
  intro i p m f h hf hi
  obtain h | ⟨hpress, -⟩ := h.turn hf hi now input
  · apply h
  · cases hinput.symm.trans hpress

/-- A press begins at most one drag. -/
theorem IsClean.dispatch_press (h : p.IsClean m) (now : Float) (input : Input α) :
  (p.dispatch m now input).pipeline.IsEngaged (p.dispatch m now input).model
  := by
  apply dispatch_rule (C := fun _ => IsClean) (D := IsEngaged)
  case start => apply h
  case pass =>
    intro i p m f h hf hi hresult
    obtain h | ⟨-, hstop, -⟩ := h.turn hf hi now input
    · apply h
    · cases hstop.symm.trans hresult
  case stop =>
    intro i p m f h hf hi _
    obtain h | ⟨-, -, h⟩ := h.turn hf hi now input
    · exact .inl h
    · exact .inr ⟨i, h⟩
  case done =>
    intro i p m h _
    exact .inl h

/-- Without a press no further drag begins. -/
theorem IsEngaged.dispatch (h : p.IsEngaged m) (hinput : input.isPress = false) (now : Float) :
  (p.dispatch m now input).pipeline.IsEngaged (p.dispatch m now input).model
  := by
  apply dispatch_keeps (M := IsEngaged) _ h
  rintro i p m f (h | ⟨k, h⟩) hf hi
  · obtain h | ⟨hpress, -⟩ := h.turn hf hi now input
    · exact .inl h
    · cases hinput.symm.trans hpress
  · obtain ⟨h, -⟩ | h := h.turn hf hinput now
    · exact .inr ⟨k, h⟩
    · exact .inl h

/-- A release comes to the feature that drags, wherever the pipeline is cut off. -/
theorem IsEngaged.dispatch_release (h : p.IsEngaged m) (hinput : input.isRelease = true)
    (now : Float) :
  (p.dispatch m now input).pipeline.IsClean (p.dispatch m now input).model
  := by
  have hpress : input.isPress = false := by
    unfold Input.isRelease at hinput
    split at hinput
    · rfl
    · cases hinput
  -- the feature that drags, if there is one, is yet to see the release
  apply dispatch_rule (C := fun i p m => p.IsClean m ∨ ∃ k, i ≤ k ∧ p.IsDraggedBy k m)
    (D := IsClean)
  case start =>
    apply h.imp_right
    rintro ⟨k, h⟩
    exact ⟨k, Nat.zero_le k, h⟩
  case pass =>
    rintro i p m f (h | ⟨k, hik, h⟩) hf hi -
    · obtain h | ⟨hpress', -⟩ := h.turn hf hi now input
      · exact .inl h
      · cases hpress.symm.trans hpress'
    · obtain ⟨h, hrelease⟩ | h := h.turn hf hpress now
      · exact .inr ⟨k, Nat.lt_of_le_of_ne hik (hrelease hinput).1, h⟩
      · exact .inl h
  case stop =>
    rintro i p m f (h | ⟨k, hik, h⟩) hf hi hresult
    · obtain h | ⟨hpress', -⟩ := h.turn hf hi now input
      · apply h
      · cases hpress.symm.trans hpress'
    · obtain ⟨-, hrelease⟩ | h := h.turn hf hpress now
      · cases hresult (hrelease hinput).2
      · apply h
  case done =>
    rintro i p m (h | ⟨k, hik, h⟩) hi
    · apply h
    · have hattached := h.attached
      omega

/-! ### Timers -/

theorem IsClean.fire (h : p.IsClean m) (hf : p.features[i]? = some f) (timer : TimerToken)
    (now : Float) :
  (p.after i now (f.fire timer (p.turn m i now))).IsClean (f.fire timer (p.turn m i now)).turn.model
  := by
  have hrest : f.isDragging = false := h.isDragging_eq hf
  rw [(BuiltIn.isAtRest_of_isDragging hrest).fire]
  apply h.after hrest rfl

theorem IsDraggedBy.fire (h : p.IsDraggedBy k m) (hf : p.features[i]? = some f)
    (timer : TimerToken) (now : Float) :
  (p.after i now (f.fire timer (p.turn m i now))).IsDraggedBy k
    (f.fire timer (p.turn m i now)).turn.model
  := by
  by_cases hik : i = k
  · obtain rfl := hik
    obtain ⟨f', hf', hdragging, hundrawn⟩ := h.dragging
    obtain rfl := Option.some.inj (hf.symm.trans hf')
    obtain ⟨hstill, hsame, hoverlays, -⟩ := f.fire_keeps timer (p.turn m i now)
    apply isDraggedBy_after h.attached h.rest (hstill.trans hdragging)
    rw [hsame]
    apply hoverlays.trans hundrawn
  · have hrest : f.isDragging = false := h.rest hf hik
    rw [(BuiltIn.isAtRest_of_isDragging hrest).fire]
    apply h.after_other hik hrest rfl rfl

theorem IsClean.tick (h : p.IsClean m) (now : Float) :
  (p.tick (Input α) m now).pipeline.IsClean (p.tick (Input α) m now).model
  := by
  apply tick_keeps (M := IsClean) _ _ _ h
  · intro i p m f token h hf
    apply h.fire hf
  · intro p m h
    exact ⟨h.rest, h.overlays⟩
  · intro p m h
    exact ⟨h.rest, h.overlays⟩

theorem IsDraggedBy.tick (h : p.IsDraggedBy k m) (now : Float) :
  (p.tick (Input α) m now).pipeline.IsDraggedBy k (p.tick (Input α) m now).model
  := by
  apply tick_keeps (M := IsDraggedBy k) _ _ _ h
  · intro i p m f token h hf
    apply h.fire hf
  · intro p m h
    exact ⟨h.dragging, h.rest, Nat.lt_of_lt_of_le h.attached p.attachedCount_le⟩
  · intro p m h
    exact ⟨h.dragging, h.rest, h.attached⟩

theorem IsEngaged.tick (h : p.IsEngaged m) (now : Float) :
  (p.tick (Input α) m now).pipeline.IsEngaged (p.tick (Input α) m now).model
  := by
  obtain h | ⟨k, h⟩ := h
  · exact .inl (h.tick now)
  · exact .inr ⟨k, h.tick now⟩

end Pipeline

end DataGrid
