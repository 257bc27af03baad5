import DataGrid.Proofs.Feature.Press
import DataGrid.Proofs.Pipeline.Holding

/-!
# Presses that take hold of columns

A press goes through features that are all at rest.  Those that see it first may change the
selection or stop it; if it reaches the one that moves columns, that one may take hold of them, and
from then on the pipeline holds them (`Pipeline.pressed_dispatch`).
-/

namespace DataGrid

variable {α σ : Type} [Pixel α] [DataSource σ]

namespace Pipeline

omit [Pixel α] in
theorem columnDrag?_eq_none {p : Pipeline (BuiltIn α)}
    (h : ∀ f ∈ p.features, f.columnDrag? = none) :
  p.columnDrag? = none
  := List.findSome?_eq_none_iff.mpr h

/-- While a press is on its way through features at rest, those that have seen it do not reach for
columns if it is going to take hold of one. -/
structure Pressing (e : PointerEvent α) (m : Model α σ) (i : Nat) (p' : Pipeline (BuiltIn α))
    (m' : Model α σ) : Prop where
  rest : ∀ {j : Nat} {f : BuiltIn α}, p'.features[j]? = some f → f.IsAtRest
  reaching : ∀ {j : Nat} {f : BuiltIn α}, p'.features[j]? = some f → j < i →
    (ColumnMoving.pressed? m e).isSome → f.isExtending = false
  frame_eq : m'.toFrame.silent = m.toFrame.silent
  numbered : p'.timers.IsNumbered

/-- What may have become of a press. -/
inductive Pressed (e : PointerEvent α) (m : Model α σ) (p' : Pipeline (BuiltIn α))
    (m' : Model α σ) : Prop where
  /-- It is for something else than moving columns. -/
  | other (none : p'.columnDrag? = none)
  /-- Columns are held; the press may have changed the selection before. -/
  | held (k : Nat) {seen : Model α σ} {c : PointedCell α} {column : Nat}
    (pressed : ColumnMoving.pressed? m e = some (c, column))
    (seen_eq : seen.toFrame.silent = m.toFrame.silent)
    (holds : p'.Holds k (.armed (ColumnMoving.grab seen e c column)))
    (model_eq : m' = ColumnMoving.showHeld seen (ColumnMoving.grab seen e c column))

namespace Pressing

variable {e : PointerEvent α} {m m' : Model α σ} {i : Nat} {p' : Pipeline (BuiltIn α)}
  {f : BuiltIn α} {now : Float}

omit [Pixel α] [DataSource σ] in
theorem pressed?_eq (h : Pressing e m i p' m') :
  ColumnMoving.pressed? m' e = ColumnMoving.pressed? m e
  := ColumnMoving.pressed?_congr (congrArg (fun f => f.config) h.frame_eq) e

/-- A feature that hands the press on stays at rest. -/
theorem pass (h : Pressing e m i p' m') (hf : p'.features[i]? = some f)
    (hresult : (f.handle (.pointer .down e) (p'.turn m' i now)).result = .ok .pass) :
  Pressing e m (i + 1) (p'.after i now (f.handle (.pointer .down e) (p'.turn m' i now)))
    (f.handle (.pointer .down e) (p'.turn m' i now)).turn.model
  := by
  have hdown := (h.rest hf).handle_down e (p'.turn m' i now)
  generalize f.handle (.pointer .down e) (p'.turn m' i now) = r at hresult hdown
  cases hdown with
  | held pressed result =>
    rw [result] at hresult
    cases hresult
  | taken result =>
    rw [result] at hresult
    cases hresult
  | passed result rest extending frame timers request =>
    rw [after_of_request_none p' i now request]
    constructor
    case rest =>
      intro j g hg
      obtain ⟨-, rfl⟩ | ⟨-, hold⟩ := getElem?_set_cases hg
      · apply rest
      · apply h.rest hold
    case reaching =>
      intro j g hg hj hpressed
      obtain ⟨-, rfl⟩ | ⟨hne, hold⟩ := getElem?_set_cases hg
      · apply extending
        rw [← h.pressed?_eq] at hpressed
        apply hpressed
      · apply h.reaching hold (by omega) hpressed
    case frame_eq => apply frame.trans h.frame_eq
    case numbered =>
      rw [timers]
      apply h.numbered

/-- A feature that stops the press holds columns, or it does something else. -/
theorem stop (h : Pressing e m i p' m') (hf : p'.features[i]? = some f)
    (hresult : (f.handle (.pointer .down e) (p'.turn m' i now)).result ≠ .ok .pass) :
  Pressed e m (p'.after i now (f.handle (.pointer .down e) (p'.turn m' i now)))
    (f.handle (.pointer .down e) (p'.turn m' i now)).turn.model
  := by
  obtain ⟨hlt, -⟩ := List.getElem?_eq_some_iff.mp hf
  have hdown := (h.rest hf).handle_down e (p'.turn m' i now)
  generalize f.handle (.pointer .down e) (p'.turn m' i now) = r at hresult hdown
  cases hdown with
  | passed result => cases hresult result
  | held pressed result feature model_eq timers request =>
    rw [after_of_request_detach p' i now request]
    have hpressed := pressed
    change ColumnMoving.pressed? m' e = _ at hpressed
    rw [h.pressed?_eq] at hpressed
    refine Pressed.held i hpressed h.frame_eq ?_ model_eq
    constructor
    case moving =>
      rw [feature]
      apply List.getElem?_set_self hlt
    case rest =>
      intro j g hg hj
      obtain ⟨rfl, -⟩ | ⟨-, hold⟩ := getElem?_set_cases hg
      · cases hj rfl
      · apply h.rest hold
    case reaching =>
      intro j g hg hj
      obtain ⟨rfl, -⟩ | ⟨-, hold⟩ := getElem?_set_cases hg
      · cases Nat.lt_irrefl _ hj
      · apply h.reaching hold hj
        rw [hpressed]
        rfl
    case detachedAt_eq => rfl
    case reattachToken_eq => rfl
    case numbered =>
      change r.turn.timers.IsNumbered
      rw [timers]
      apply h.numbered
  | taken result drag =>
    apply Pressed.other (columnDrag?_eq_none _)
    intro g hg
    rw [features_after] at hg
    obtain ⟨j, hj⟩ := List.mem_iff_getElem?.mp hg
    obtain ⟨-, rfl⟩ | ⟨-, hold⟩ := getElem?_set_cases hj
    · apply drag
    · apply (h.rest hold).columnDrag?_eq

end Pressing

/-- A press, when all features are at rest, takes hold of columns or does something else. -/
theorem pressed_dispatch {p : Pipeline (BuiltIn α)} (hrest : ∀ f ∈ p.features, f.IsAtRest)
    (hnumbered : p.timers.IsNumbered) (m : Model α σ) (now : Float) (e : PointerEvent α) :
  Pressed e m (p.dispatch m now (Input.pointer .down e)).pipeline
    (p.dispatch m now (Input.pointer .down e)).model
  := by
  apply dispatch_rule (C := Pressing e m)
  case start =>
    constructor
    · intro j f hf
      apply hrest f (List.mem_of_getElem? hf)
    · intro j f _ hj
      cases hj
    · rfl
    · apply hnumbered
  case pass =>
    intro i p' m' f h hf _ hresult
    apply h.pass hf hresult
  case stop =>
    intro i p' m' f h hf _ hresult
    apply h.stop hf hresult
  case done =>
    intro i p' m' h _
    apply Pressed.other (columnDrag?_eq_none _)
    intro f hf
    obtain ⟨j, hj⟩ := List.mem_iff_getElem?.mp hf
    apply (h.rest hj).columnDrag?_eq

end Pipeline

end DataGrid
