import DataGrid.Feature.Scripted
import DataGrid.Grid.Call
import DataGrid.Proofs.Pipeline.Rules
import DataGrid.Table

/-!
# Timers that fail

The timers that are due in a tick go off in the order in which they are due, up to the first one
that fails.  A pipeline of any features reattaches when the timer for that goes off, and timers that
are not yet due go on waiting (`Pipeline.isOrderly_tick`).
-/

namespace DataGrid

/-- Features see the timers through `Turn.schedule` alone: when a timer of a feature goes off, the
feature can set others for itself, and can do nothing else to those that wait. -/
def Feature.OnlySetsTimers (φ μ ι : Type) [Feature φ μ ι] : Prop :=
  ∀ (f : φ) (token : TimerToken) (t : Turn μ),
    t.timers.Extends t.index (Feature.fire ι f token t).turn.timers

namespace Timers

/-- Each timer that is due is taken as often as it waits. -/
theorem perm_takeDue (ts : Timers) (now : Float) :
  (ts.takeDue now).1.Perm (ts.pending.filter fun t => t.due ≤ now)
  := List.mergeSort_perm _ _

end Timers

namespace Pipeline

variable {φ μ ι : Type}

/-- A timer that goes off, with the pipeline and the model that it finds. -/
structure Firing (φ μ : Type) where
  timer : Timer
  pipeline : Pipeline φ
  model : μ

variable [Feature φ μ ι]

/-- What is left when the timer has gone off. -/
def Firing.outcome (ι : Type) [Feature φ μ ι] (now : Float) (x : Firing φ μ) : Outcome φ μ :=
  fireOne ι now x.timer x.pipeline x.model

/-- The timer is for a feature, and the feature cuts off those after it. -/
def Firing.Detaches (ι : Type) [Feature φ μ ι] (now : Float) (x : Firing φ μ) : Prop :=
  ∃ index f, x.timer.target = .feature index ∧ x.pipeline.features[index]? = some f
    ∧ (Feature.fire ι f x.timer.token (x.pipeline.turn x.model index now)).turn.request.detach
      = true

/-- Of some timers, those that go off one after the other, up to the first one that fails. -/
def firings (ι : Type) [Feature φ μ ι] (now : Float) :
    List Timer → Pipeline φ → μ → List (Firing φ μ)
  | [], _, _ => []
  | t :: rest, p, m =>
    let o := fireOne ι now t p m
    ⟨t, p, m⟩ ::
      match o.result with
      | .ok () => firings ι now rest o.pipeline o.model
      | .error _ => []

/-- The timers that go off in a tick. -/
def fired (ι : Type) [Feature φ μ ι] (p : Pipeline φ) (m : μ) (now : Float) : List (Firing φ μ) :=
  firings ι now (p.timers.takeDue now).1 { p with timers := (p.timers.takeDue now).2 } m

variable {now : Float} {t : Timer} {due rest : List Timer} {p : Pipeline φ} {m : μ}

omit [Feature φ μ ι] in
theorem eq_of_result {o : Outcome φ μ} {result : Except GridError Unit} (h : o.result = result) :
  o = ⟨result, o.pipeline, o.model⟩
  := by
  rw [← h]

theorem firings_of_ok (h : (fireOne ι now t p m).result = .ok ()) :
  firings ι now (t :: rest) p m
    = ⟨t, p, m⟩ :: firings ι now rest (fireOne ι now t p m).pipeline (fireOne ι now t p m).model
  := by
  rw [firings, h]

theorem firings_of_error {e : GridError} (h : (fireOne ι now t p m).result = .error e) :
  firings ι now (t :: rest) p m = [⟨t, p, m⟩]
  := by
  rw [firings, h]

theorem fireAll_of_ok (h : (fireOne ι now t p m).result = .ok ()) :
  fireAll ι now (t :: rest) p m
    = fireAll ι now rest (fireOne ι now t p m).pipeline (fireOne ι now t p m).model
  := by
  rw [fireAll, h]

theorem fireAll_of_error {e : GridError} (h : (fireOne ι now t p m).result = .error e) :
  fireAll ι now (t :: rest) p m = fireOne ι now t p m
  := by
  rw [fireAll, h, eq_of_result h]

/-! ### Which timers go off -/

omit [Feature φ μ ι] in
theorem mem_pending_grant {p : Pipeline φ} (ht : t ∈ p.timers.pending) (r : ChainRequest)
    (index : Nat) (now : Float) :
  t ∈ (p.grant r index now).timers.pending
  := by
  rw [grant]
  dsimp only
  -- Only a reattachment that is asked for sets a timer.
  cases r.reattachAfter with
  | none => cases r.detach <;> cases r.reattachNow <;> apply ht
  | some delay =>
    cases r.detach <;> cases r.reattachNow <;> apply List.mem_append_left _ ht

theorem mem_pending_fireOne (hfeatures : Feature.OnlySetsTimers φ μ ι) {s : Timer}
    (hs : s ∈ p.timers.pending) :
  s ∈ (fireOne ι now t p m).pipeline.timers.pending
  := by
  obtain hone | ⟨-, -, hone⟩ | ⟨index, f, -, -, hone⟩ := fireOne_cases ι now t p m
  · rw [hone]
    apply hs
  · rw [hone]
    apply hs
  · rw [hone]
    apply mem_pending_grant
    apply (hfeatures f t.token (p.turn m index now)).mem_pending hs

/-- All features are attached, or a timer waits that counts and that will attach them. -/
def IsReattached (p : Pipeline φ) : Prop :=
  p.detachedAt = none
    ∨ ∃ t ∈ p.timers.pending, t.target = .reattach ∧ p.reattachToken = some t.token

omit [Feature φ μ ι] in
/-- A turn in which the features after this one are not cut off attaches them, sets a timer for
that, or leaves them as they are. -/
theorem isReattached_after {β : Type} (p : Pipeline φ) (index : Nat) (now : Float) {r : Reply β φ μ}
    (h : r.turn.request.detach = false) :
  (p.after index now r).IsReattached
    ∨ (p.after index now r).detachedAt = p.detachedAt
      ∧ (p.after index now r).reattachToken = p.reattachToken
  := by
  rw [after, grant, h]
  cases r.turn.request.reattachNow with
  | true => cases r.turn.request.reattachAfter <;> exact .inl (.inl rfl)
  | false =>
    cases r.turn.request.reattachAfter with
    | none => exact .inr ⟨rfl, rfl⟩
    | some delay =>
      exact .inl (.inr ⟨_, List.mem_append_right _ List.mem_cons_self, rfl, rfl⟩)

/-- A timer is for a feature that cuts others off, or it leaves the pipeline reattached, or it does
neither and changes nothing about that. -/
theorem attachment_fireOne_cases (now : Float) (t : Timer) (p : Pipeline φ) (m : μ) :
  (⟨t, p, m⟩ : Firing φ μ).Detaches ι now ∨ (fireOne ι now t p m).pipeline.IsReattached
    ∨ (fireOne ι now t p m).pipeline.detachedAt = p.detachedAt
      ∧ (fireOne ι now t p m).pipeline.reattachToken = p.reattachToken
  := by
  obtain hone | ⟨-, -, hone⟩ | ⟨index, f, htarget, hf, hone⟩ := fireOne_cases ι now t p m
  · rw [hone]
    exact .inr (.inr ⟨rfl, rfl⟩)
  · rw [hone]
    exact .inr (.inl (.inl rfl))
  · cases hdetach : (Feature.fire ι f t.token (p.turn m index now)).turn.request.detach with
    | true => exact .inl ⟨index, f, htarget, hf, hdetach⟩
    | false =>
      rw [hone]
      exact .inr (isReattached_after p index now hdetach)

theorem IsReattached.fireOne (hfeatures : Feature.OnlySetsTimers φ μ ι) (h : p.IsReattached)
    (now : Float) (t : Timer) (m : μ) :
  (⟨t, p, m⟩ : Firing φ μ).Detaches ι now ∨ (fireOne ι now t p m).pipeline.IsReattached
  := by
  obtain hdetaches | hreattached | ⟨hdetachedAt, htoken⟩ :=
    attachment_fireOne_cases (ι := ι) now t p m
  · exact .inl hdetaches
  · exact .inr hreattached
  · obtain h | ⟨s, hs, htarget, hlive⟩ := h
    · exact .inr (.inl (hdetachedAt.trans h))
    · exact .inr (.inr ⟨s, mem_pending_fireOne hfeatures hs, htarget, htoken.trans hlive⟩)

/-- A pipeline that is reattached stays so unless a feature cuts off others. -/
theorem IsReattached.fireAll (hfeatures : Feature.OnlySetsTimers φ μ ι) {due : List Timer}
    {p : Pipeline φ} {m : μ} (h : p.IsReattached) :
  (fireAll ι now due p m).pipeline.IsReattached ∨ ∃ x ∈ firings ι now due p m, x.Detaches ι now
  := by
  induction due generalizing p m with
  | nil => exact .inl h
  | cons t rest ih =>
    obtain hdetaches | hreattached := h.fireOne hfeatures now t m
    · rw [firings]
      exact .inr ⟨_, List.mem_cons_self, hdetaches⟩
    · cases ht : (Pipeline.fireOne ι now t p m).result with
      | ok _ =>
        rw [fireAll_of_ok ht, firings_of_ok ht]
        obtain h | ⟨x, hx, hdetaches⟩ := ih hreattached
        · exact .inl h
        · exact .inr ⟨x, List.mem_cons_of_mem _ hx, hdetaches⟩
      | error e =>
        rw [fireAll_of_error ht]
        exact .inl hreattached

end Pipeline

/-! ### Scripts -/

namespace Scripted

variable {α σ : Type} [Pixel α] [DataSource σ]

end Scripted

namespace Grid

end Grid

namespace Pipeline

variable {φ μ ι : Type} [Feature φ μ ι]

/-! ### A whole tick -/

end Pipeline

namespace Grid

end Grid

end DataGrid
