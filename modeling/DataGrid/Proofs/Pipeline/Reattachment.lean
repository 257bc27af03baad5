import DataGrid.Proofs.Feature.Advance
import DataGrid.Proofs.Feature.Requests
import DataGrid.Proofs.Pipeline.Rules

/-!
# Cutting off and attaching

In a pipeline with one feature that moves columns, that feature holds columns and has cut off those
after it for good (`Pipeline.IsHeld`), or it holds none and those after it are attached or will be
by a certain timer (`Pipeline.Awaits`).  Inputs lead from each of these to one of them, and a tick
that comes when the timer is due attaches all features.
-/

namespace DataGrid

variable {α σ : Type}

namespace Pipeline

/-- The feature at an index, and no other one, moves columns, and it is in a state. -/
structure Moves (p : Pipeline (BuiltIn α)) (index : Nat) (s : ColumnMoving α) : Prop where
  moving : p.features[index]? = some (.columnMoving s)
  others : ∀ {i : Nat} {f : BuiltIn α}, p.features[i]? = some f → i ≠ index →
    f.name ≠ "column_moving"

/-- Columns are held, the features after the one that moves them are cut off, and no timer can
attach them. -/
structure IsHeld (index : Nat) (p : Pipeline (BuiltIn α)) : Prop where
  moves : ∃ s, p.Moves index s ∧ s.drag?.isSome = true
  detachedAt_eq : p.detachedAt = some index
  reattachToken_eq : p.reattachToken = none

/-- No columns are held, and all features are attached or will be when a timer goes off. -/
inductive Awaits (index : Nat) (t : Timer) (p : Pipeline (BuiltIn α)) : Prop where
  | attached (moves : p.Moves index .idle) (detachedAt : p.detachedAt = none)
  | detached (moves : p.Moves index .idle) (detachedAt : p.detachedAt = some index)
    (target : t.target = .reattach) (token : p.reattachToken = some t.token)
    (pending : t ∈ p.timers.pending)

/-- One or the other. -/
def IsAttachable (index : Nat) (p : Pipeline (BuiltIn α)) : Prop :=
  p.IsHeld index ∨ ∃ t, p.Awaits index t

/-! ### One turn -/

namespace Moves

variable {β : Type} {p : Pipeline (BuiltIn α)} {k i : Nat} {s s' : ColumnMoving α}
  {f : BuiltIn α} {now : Float} {r : Reply β (BuiltIn α) (Model α σ)}

/-- Another feature has a turn. -/
theorem after_other (h : p.Moves k s) (hi : i ≠ k) (hf : p.features[i]? = some f)
    (hname : r.feature.name = f.name) :
  (p.after i now r).Moves k s
  := by
  constructor
  case moving => rw [features_after, List.getElem?_set_ne hi, h.moving]
  case others =>
    intro j g hg hj
    rw [features_after] at hg
    obtain ⟨rfl, rfl⟩ | ⟨-, hold⟩ := getElem?_set_cases hg
    · rw [hname]
      apply h.others hf hi
    · apply h.others hold hj

/-- The feature that moves columns has a turn. -/
theorem after_self (h : p.Moves k s) (hfeature : r.feature = .columnMoving s') :
  (p.after k now r).Moves k s'
  := by
  obtain ⟨hlt, -⟩ := List.getElem?_eq_some_iff.mp h.moving
  constructor
  case moving => rw [features_after, hfeature, List.getElem?_set_self hlt]
  case others =>
    intro j g hg hj
    rw [features_after] at hg
    obtain ⟨rfl, -⟩ | ⟨-, hold⟩ := getElem?_set_cases hg
    · cases hj rfl
    · apply h.others hold hj

end Moves

section Turns

variable {β : Type} {p : Pipeline (BuiltIn α)} {k i : Nat} {s s' : ColumnMoving α}
  {now : Float} {r : Reply β (BuiltIn α) (Model α σ)} {t : Timer}

/-- A turn in which nothing is asked for and the same columns are held, if any. -/
theorem IsHeld.after (h : p.IsHeld k)
    (hmoves : ∃ s, (p.after i now r).Moves k s ∧ s.drag?.isSome = true)
    (hrequest : r.turn.request = .none) :
  (p.after i now r).IsHeld k
  := by
  refine ⟨hmoves, ?_, ?_⟩
  · rw [after_of_request_none p i now hrequest]
    apply h.detachedAt_eq
  · rw [after_of_request_none p i now hrequest]
    apply h.reattachToken_eq

theorem Awaits.after (h : p.Awaits k t) (hmoves : (p.after i now r).Moves k .idle)
    (hrequest : r.turn.request = .none) (htimers : p.timers.Extends i r.turn.timers) :
  (p.after i now r).Awaits k t
  := by
  have hafter := after_of_request_none p i now hrequest
  cases h with
  | attached moves detachedAt =>
    apply Awaits.attached hmoves
    rw [hafter, detachedAt]
  | detached moves detachedAt target token pending =>
    apply Awaits.detached hmoves _ target
    · rw [hafter, token]
    · rw [hafter]
      apply htimers.mem_pending pending
    · rw [hafter, detachedAt]

end Turns

variable [Pixel α] [DataSource σ] {p : Pipeline (BuiltIn α)} {m : Model α σ} {k i : Nat}
  {f : BuiltIn α} {t : Timer} {now : Float} {input : Input α}

/-- Held columns are held until they are let go of, and no press lets go of any. -/
theorem IsHeld.turn (h : p.IsHeld k) (hf : p.features[i]? = some f) (m : Model α σ) (now : Float)
    (input : Input α) :
  let r := f.handle input (p.turn m i now)
  (p.after i now r).IsHeld k
    ∨ input.isPress = false ∧ ∃ t, (p.after i now r).Awaits k t
  := by
  obtain ⟨s, hmoves, hheld⟩ := h.moves
  by_cases hik : i = k
  · obtain rfl := hik
    obtain rfl := Option.some.inj (hmoves.moving.symm.trans hf)
    cases s.asks_handle input (p.turn m i now) with
    | nothing held request =>
      exact .inl (h.after ⟨_, hmoves.after_self rfl, held.trans hheld⟩ request)
    | detach press held request =>
      refine .inl ⟨⟨_, hmoves.after_self rfl, held⟩, ?_, ?_⟩
      · rw [after_of_request_detach p i now request]
      · rw [after_of_request_detach p i now request]
    | reattachAfter delay press before idle request =>
      let t : Timer :=
        ⟨now + delay, .reattach, (s.handle input (p.turn m i now)).turn.timers.next⟩
      refine .inr ⟨press, t, .detached ?_ ?_ rfl ?_ ?_⟩
      · apply hmoves.after_self (congrArg BuiltIn.columnMoving idle)
      · rw [after_of_request_reattachAfter p i now request]
        apply h.detachedAt_eq
      · rw [after_of_request_reattachAfter p i now request]
        rfl
      · rw [after_of_request_reattachAfter p i now request]
        exact List.mem_append_right _ List.mem_cons_self
    | reattachNow press before idle request =>
      refine .inr ⟨press, ⟨now, .reattach, 0⟩, .attached ?_ ?_⟩
      · apply hmoves.after_self (congrArg BuiltIn.columnMoving idle)
      · rw [after_of_request_reattachNow p i now request]
  · refine .inl (h.after ⟨s, ?_, hheld⟩ ?_)
    · apply hmoves.after_other hik hf (f.name_handle input _)
    · apply BuiltIn.request_handle (hmoves.others hf hik)

omit [Pixel α] [DataSource σ] in
theorem Awaits.moves (h : p.Awaits k t) :
  p.Moves k .idle
  := by
  cases h with
  | attached moves => apply moves
  | detached moves => apply moves

/-- While no columns are held, nothing but a press changes when the features will be attached. -/
theorem Awaits.turn (h : p.Awaits k t) (hf : p.features[i]? = some f) (m : Model α σ) (now : Float)
    (input : Input α) :
  let r := f.handle input (p.turn m i now)
  (p.after i now r).Awaits k t ∨ input.isPress = true ∧ (p.after i now r).IsHeld k
  := by
  have hmoves := h.moves
  have htimers := (f.advances_handle input (p.turn m i now)).timers
  by_cases hik : i = k
  · obtain rfl := hik
    obtain rfl := Option.some.inj (hmoves.moving.symm.trans hf)
    cases ColumnMoving.asks_handle .idle input (p.turn m i now) with
    | nothing held request =>
      have hidle := congrArg BuiltIn.columnMoving (ColumnMoving.eq_idle held)
      exact .inl (h.after (hmoves.after_self hidle) request htimers)
    | detach press held request =>
      refine .inr ⟨press, ⟨_, hmoves.after_self rfl, held⟩, ?_, ?_⟩
      · rw [after_of_request_detach p i now request]
      · rw [after_of_request_detach p i now request]
    | reattachAfter delay press before => cases before
    | reattachNow press before => cases before
  · refine .inl (h.after ?_ ?_ htimers)
    · apply hmoves.after_other hik hf (f.name_handle input _)
    · apply BuiltIn.request_handle (hmoves.others hf hik)

/-! ### A whole input -/

/-- An input leaves the features to be attached by the same timer, unless it takes hold of
columns. -/
theorem Awaits.dispatch (h : p.Awaits k t) (m : Model α σ) (now : Float) (input : Input α) :
  (p.dispatch m now input).pipeline.Awaits k t ∨ (p.dispatch m now input).pipeline.IsHeld k
  := by
  -- a press that has taken hold of columns does not let go of them
  let C (p : Pipeline (BuiltIn α)) : Prop := p.Awaits k t ∨ input.isPress = true ∧ p.IsHeld k
  have hC : C (p.dispatch m now input).pipeline := by
    apply dispatch_keeps (M := fun p _ => C p) _ (.inl h)
    rintro i p m f (h | ⟨hpress, h⟩) hf -
    · apply h.turn hf
    · obtain h | ⟨hother, -⟩ := h.turn hf m now input
      · exact .inr ⟨hpress, h⟩
      · cases hpress.symm.trans hother
  exact hC.imp_right And.right

theorem IsAttachable.dispatch (h : p.IsAttachable k) (m : Model α σ) (now : Float)
    (input : Input α) :
  (p.dispatch m now input).pipeline.IsAttachable k
  := by
  apply dispatch_keeps (M := fun p _ => p.IsAttachable k) _ h
  rintro i p m f (h | ⟨t, h⟩) hf -
  · exact (h.turn hf m now input).imp_right And.right
  · obtain h | ⟨-, h⟩ := h.turn hf m now input
    · exact .inr ⟨t, h⟩
    · exact .inl h

/-! ### Timers -/

/-- Timers leave the feature that moves columns in a state in which it holds the same columns. -/
theorem Moves.fire {s : ColumnMoving α} (h : p.Moves k s) (hf : p.features[i]? = some f)
    (token : TimerToken) (m : Model α σ) (now : Float) :
  ∃ s', (p.after i now (f.fire token (p.turn m i now))).Moves k s'
    ∧ s'.drag?.isSome = s.drag?.isSome
  := by
  by_cases hik : i = k
  · obtain rfl := hik
    obtain rfl := Option.some.inj (h.moving.symm.trans hf)
    have hkeeps := BuiltIn.fire_keeps (.columnMoving s) token (p.turn m i now)
    exact ⟨_, h.after_self rfl, hkeeps.1⟩
  · exact ⟨s, h.after_other hik hf (f.name_fire token _), rfl⟩

theorem Moves.tick {s : ColumnMoving α} (h : p.Moves k s) (m : Model α σ) (now : Float) :
  ∃ s', (p.tick (Input α) m now).pipeline.Moves k s' ∧ s'.drag?.isSome = s.drag?.isSome
  := by
  apply tick_keeps (M := fun p _ => ∃ s', p.Moves k s' ∧ s'.drag?.isSome = s.drag?.isSome) _ _ _
    ⟨s, h, rfl⟩
  · rintro i p m f token ⟨s', hmoves, hsame⟩ hf
    obtain ⟨s'', hmoves', hsame'⟩ := hmoves.fire hf token m now
    exact ⟨s'', hmoves', hsame'.trans hsame⟩
  · rintro p m ⟨s', hmoves, hsame⟩
    exact ⟨s', ⟨hmoves.moving, hmoves.others⟩, hsame⟩
  · rintro p m ⟨s', hmoves, hsame⟩
    exact ⟨s', ⟨hmoves.moving, hmoves.others⟩, hsame⟩

theorem IsHeld.fireOne (h : p.IsHeld k) (m : Model α σ) (now : Float) (t : Timer) :
  (fireOne (Input α) now t p m).pipeline.IsHeld k
  := by
  obtain hone | ⟨-, htoken, -⟩ | ⟨i, f, -, hf, hone⟩ := fireOne_cases (Input α) now t p m
  · rw [hone]
    apply h
  · cases h.reattachToken_eq.symm.trans htoken
  · obtain ⟨s, hmoves, hheld⟩ := h.moves
    obtain ⟨s', hmoves', hsame⟩ := hmoves.fire hf t.token m now
    rw [hone]
    apply h.after ⟨s', hmoves', hsame.trans hheld⟩
    apply (f.fire_keeps t.token (p.turn m i now)).2.2.2

theorem Awaits.fireOne (h : p.Awaits k t) (m : Model α σ) (now : Float) (t' : Timer) :
  (Pipeline.fireOne (Input α) now t' p m).pipeline.Awaits k t
  := by
  obtain hone | ⟨-, -, hone⟩ | ⟨i, f, -, hf, hone⟩ := fireOne_cases (Input α) now t' p m
  · rw [hone]
    apply h
  · rw [hone]
    exact .attached ⟨h.moves.moving, h.moves.others⟩ rfl
  · obtain ⟨s', hmoves', hsame⟩ := h.moves.fire hf t'.token m now
    obtain rfl := ColumnMoving.eq_idle hsame
    rw [hone]
    apply h.after hmoves'
    · apply (f.fire_keeps t'.token (p.turn m i now)).2.2.2
    · apply (f.advances_fire t'.token (p.turn m i now)).timers

/-- A timer attaches the features or leaves them as they are. -/
theorem attachment_fireOne (p : Pipeline (BuiltIn α)) (m : Model α σ) (now : Float) (t : Timer) :
  let p' := (Pipeline.fireOne (Input α) now t p m).pipeline
  (p'.detachedAt = p.detachedAt ∧ p'.reattachToken = p.reattachToken) ∨ p'.detachedAt = none
  := by
  obtain hone | ⟨-, -, hone⟩ | ⟨i, f, -, -, hone⟩ := fireOne_cases (Input α) now t p m
  · rw [hone]
    exact .inl ⟨rfl, rfl⟩
  · rw [hone]
    exact .inr rfl
  · rw [hone]
    have hafter := after_of_request_none p i now (f.fire_keeps t.token (p.turn m i now)).2.2.2
    change (p.after i now (f.fire t.token (p.turn m i now))).detachedAt = _
      ∧ (p.after i now (f.fire t.token (p.turn m i now))).reattachToken = _ ∨ _
    rw [hafter]
    exact .inl ⟨rfl, rfl⟩

/-- A tick attaches the features if the timer that is to do so is due. -/
theorem detachedAt_tick {p : Pipeline (BuiltIn α)} {t : Timer} {now : Float}
    (h : p.detachedAt = none ∨ t.target = .reattach ∧ p.reattachToken = some t.token
      ∧ t ∈ p.timers.pending ∧ t.due ≤ now) (m : Model α σ) :
  (p.tick (Input α) m now).pipeline.detachedAt = none
  := by
  -- until the features are attached, the timer is yet to go off
  apply fireAll_rest_rule (D := fun p' _ => p'.detachedAt = none)
    (M := fun rest p' _ => p'.detachedAt = none
      ∨ t.target = .reattach ∧ p'.reattachToken = some t.token ∧ t ∈ rest)
  case step =>
    rintro t' rest p m (h | ⟨htarget, htoken, ht⟩) -
    · obtain ⟨hsame, -⟩ | h' := p.attachment_fireOne m now t'
      · exact .inl (hsame.trans h)
      · exact .inl h'
    · obtain rfl | ht := List.mem_cons.mp ht
      · left
        simp only [Pipeline.fireOne, htarget, if_pos htoken]
      · obtain ⟨-, hsame⟩ | h' := p.attachment_fireOne m now t'
        · exact .inr ⟨htarget, hsame.trans htoken, ht⟩
        · exact .inl h'
  case fail =>
    intro t' rest p m e _ hresult
    obtain hone | ⟨-, -, hone⟩ | ⟨i, f, -, -, hone⟩ := fireOne_cases (Input α) now t' p m
    · rw [hone] at hresult
      cases hresult
    · rw [hone] at hresult
      cases hresult
    · rw [hone] at hresult
      cases (f.result_fire t'.token (p.turn m i now)).symm.trans hresult
  case done =>
    rintro p m (h | ⟨-, -, ht⟩)
    · apply h
    · cases ht
  case h =>
    apply h.imp_right
    rintro ⟨htarget, htoken, ht, hdue⟩
    obtain ⟨-, htaken⟩ | ⟨hleft, -⟩ := p.timers.mem_takeDue ht now
    · exact ⟨htarget, htoken, htaken⟩
    · cases hleft hdue

/-- No tick lets go of columns. -/
theorem IsHeld.tick (h : p.IsHeld k) (m : Model α σ) (now : Float) :
  (p.tick (Input α) m now).pipeline.IsHeld k
  := by
  apply fireAll_rule (M := fun p _ => p.IsHeld k)
  · intro t _ p m h
    apply h.fireOne
  · obtain ⟨s, hmoves, hheld⟩ := h.moves
    exact ⟨⟨s, ⟨hmoves.moving, hmoves.others⟩, hheld⟩, h.detachedAt_eq, h.reattachToken_eq⟩

/-- A tick leaves the features to be attached by the same timer, and if that is due, they are
attached. -/
theorem Awaits.tick (h : p.Awaits k t) (m : Model α σ) (now : Float) :
  (p.tick (Input α) m now).pipeline.Awaits k t
    ∧ (t.due ≤ now → (p.tick (Input α) m now).pipeline.detachedAt = none)
  := by
  obtain ⟨s, hmoves, hidle⟩ := h.moves.tick m now
  obtain rfl := ColumnMoving.eq_idle hidle
  cases h with
  | attached moves detachedAt =>
    have hattached : (p.tick (Input α) m now).pipeline.detachedAt = none :=
      detachedAt_tick (t := t) (.inl detachedAt) m
    exact ⟨.attached hmoves hattached, fun _ => hattached⟩
  | detached moves detachedAt target token pending =>
    obtain ⟨hdue, -⟩ | ⟨hleft, hpending⟩ := p.timers.mem_takeDue pending now
    · have hattached := detachedAt_tick (.inr ⟨target, token, pending, hdue⟩) m
      exact ⟨.attached hmoves hattached, fun _ => hattached⟩
    · refine ⟨?_, fun hdue => absurd hdue hleft⟩
      apply fireAll_rule (M := fun p _ => p.Awaits k t)
      · intro t' _ p m h
        apply h.fireOne
      · exact .detached ⟨moves.moving, moves.others⟩ detachedAt target token hpending

theorem IsAttachable.tick (h : p.IsAttachable k) (m : Model α σ) (now : Float) :
  (p.tick (Input α) m now).pipeline.IsAttachable k
  := by
  obtain h | ⟨t, h⟩ := h
  · exact .inl (h.tick m now)
  · exact .inr ⟨t, (h.tick m now).1⟩

end Pipeline

end DataGrid
