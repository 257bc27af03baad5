import DataGrid.Proofs.Pipeline.Rules

/-!
# Inputs for one feature

An input gets to a feature if those before it hand the input on (`Pipeline.GetsTo`), and many an
input is for one feature, as those after it hand it on, too, if they see it (`Pipeline.IsFor`).  What
comes of the input is then what that feature makes of it, and the pipeline is the same but for this
feature and for what the others remember of an input that they hand on (`Pipeline.IsFor.dispatch`).
-/

namespace DataGrid.Pipeline

variable {φ μ ι : Type}

/-- A feature hands an input on, whenever it sees it with this model, and becomes `f'`. -/
def HandsOn [Feature φ μ ι] (input : ι) (m : μ) (f f' : φ) : Prop :=
  ∀ t : Turn μ, t.model = m → Feature.handle f input t = ⟨.ok .pass, f', t⟩

/-- An input gets to the feature at an index, which makes the reply `r` to it.  Every feature before
it hands the input on, and `next` tells what becomes of the feature. -/
structure GetsTo [Feature φ μ ι] (p : Pipeline φ) (m : μ) (now : Float) (input : ι)
    (next : φ → φ) (k : Nat) (r : Reply Flow φ μ) : Prop where
  reply : ∃ f, p.features[k]? = some f ∧ Feature.handle f input (p.turn m k now) = r
  attached : k < p.attachedCount
  before : ∀ {i : Nat} {f : φ}, i < k → p.features[i]? = some f → HandsOn input m f (next f)

/-- An input is for the feature at an index: those behind it that see the input hand it on, too. -/
structure IsFor [Feature φ μ ι] (p : Pipeline φ) (m : μ) (now : Float) (input : ι)
    (next : φ → φ) (k : Nat) (r : Reply Flow φ μ) : Prop extends GetsTo p m now input next k r where
  behind : ∀ {i : Nat} {f : φ}, r.result = .ok .pass → k < i → p.features[i]? = some f →
    HandsOn input r.turn.model f (next f)
  request : r.turn.request = .none

/-- The pipelines differ at most in the timers, in the feature at an index and in what has become
of others. -/
structure Resembles (next : φ → φ) (k : Nat) (p p' : Pipeline φ) : Prop where
  detachedAt_eq : p'.detachedAt = p.detachedAt
  reattachToken_eq : p'.reattachToken = p.reattachToken
  length_eq : p'.features.length = p.features.length
  others : ∀ {i : Nat}, i ≠ k →
    p'.features[i]? = p.features[i]? ∨ p'.features[i]? = p.features[i]?.map next

namespace Resembles

variable {next : φ → φ} {k : Nat} {p p' : Pipeline φ}

theorem refl (next : φ → φ) (k : Nat) (p : Pipeline φ) :
  p.Resembles next k p
  := ⟨rfl, rfl, rfl, fun _ => .inl rfl⟩

theorem attachedCount_eq (h : p.Resembles next k p') :
  p'.attachedCount = p.attachedCount
  := by
  rw [attachedCount, attachedCount, h.detachedAt_eq, h.length_eq]

/-- Every other feature is one from before or what has become of one. -/
theorem exists_of_getElem? (h : p.Resembles next k p') {i : Nat} (hi : i ≠ k) {f : φ}
    (hf : p'.features[i]? = some f) :
  ∃ g, p.features[i]? = some g ∧ (f = g ∨ f = next g)
  := by
  obtain hsame | hnext := h.others hi
  · exact ⟨f, hsame.symm.trans hf, .inl rfl⟩
  · obtain ⟨g, hg, heq⟩ := Option.map_eq_some_iff.mp (hnext.symm.trans hf)
    exact ⟨g, hg, .inr heq.symm⟩

/-- Another feature that has not seen an input before hands it on. -/
theorem after_other (h : p.Resembles next k p') {i : Nat} {f : φ}
    (hfresh : p'.features[i]? = p.features[i]?) (hf : p.features[i]? = some f) (m : μ)
    (now : Float) :
  p.Resembles next k (p'.after i now ⟨.ok Flow.pass, next f, p'.turn m i now⟩)
  := by
  obtain ⟨hlt, -⟩ := List.getElem?_eq_some_iff.mp (hfresh.trans hf)
  rw [after_of_request_none p' i now rfl]
  constructor
  case detachedAt_eq => apply h.detachedAt_eq
  case reattachToken_eq => apply h.reattachToken_eq
  case length_eq => rw [List.length_set, h.length_eq]
  case others =>
    intro j hj
    by_cases hij : i = j
    · obtain rfl := hij
      right
      rw [List.getElem?_set_self hlt, hf]
      rfl
    · rw [List.getElem?_set_ne hij]
      apply h.others hj

/-- The feature at the index has a turn. -/
theorem after_self (h : p.Resembles next k p') {β : Type} {r : Reply β φ μ}
    (hrequest : r.turn.request = .none) (now : Float) :
  p.Resembles next k (p'.after k now r)
  := by
  rw [after_of_request_none p' k now hrequest]
  constructor
  case detachedAt_eq => apply h.detachedAt_eq
  case reattachToken_eq => apply h.reattachToken_eq
  case length_eq => rw [List.length_set, h.length_eq]
  case others =>
    intro j hj
    rw [List.getElem?_set_ne (Ne.symm hj)]
    apply h.others hj

end Resembles

variable [Feature φ μ ι] {p p' : Pipeline φ} {m m' : μ} {now : Float} {input : ι} {next : φ → φ}
  {k i : Nat} {r : Reply Flow φ μ}

omit [Feature φ μ ι] in
theorem fresh_after {β : Type} {r : Reply β φ μ}
    (hfresh : ∀ j, i ≤ j → p'.features[j]? = p.features[j]?) :
  ∀ j, i + 1 ≤ j → (p'.after i now r).features[j]? = p.features[j]?
  := by
  intro j hj
  rw [features_after, List.getElem?_set_ne (by omega)]
  apply hfresh j (by omega)

/-- Features up to the one at `i` have handed an input on that is still to get to the one at `k`. -/
structure Approaches (p : Pipeline φ) (m : μ) (next : φ → φ) (k i : Nat) (p' : Pipeline φ)
    (m' : μ) : Prop where
  le : i ≤ k
  model_eq : m' = m
  timers_eq : p'.timers = p.timers
  resembles : p.Resembles next k p'
  fresh : ∀ j, i ≤ j → p'.features[j]? = p.features[j]?

namespace GetsTo

/-- One feature more hands the input on. -/
theorem pass (h : GetsTo p m now input next k r) (hway : Approaches p m next k i p' m')
    (hi : i < k) {f : φ} (hf : p'.features[i]? = some f) :
  (Feature.handle f input (p'.turn m' i now)).result = .ok .pass
    ∧ Approaches p m next k (i + 1) (p'.after i now (Feature.handle f input (p'.turn m' i now)))
      (Feature.handle f input (p'.turn m' i now)).turn.model
  := by
  have hold := (hway.fresh i (Nat.le_refl i)).symm.trans hf
  rw [h.before hi hold (p'.turn m' i now) hway.model_eq]
  refine ⟨rfl, hi, hway.model_eq, ?_, ?_, ?_⟩
  · rw [after_of_request_none p' i now rfl]
    apply hway.timers_eq
  · apply hway.resembles.after_other (hway.fresh i (Nat.le_refl i)) hold m' now
  · apply fresh_after hway.fresh

/-- The feature that the input gets to makes its reply. -/
theorem reply_eq (h : GetsTo p m now input next k r) (hway : Approaches p m next k k p' m') {f : φ}
    (hf : p'.features[k]? = some f) :
  Feature.handle f input (p'.turn m' k now) = r
  := by
  obtain ⟨g, hg, hreply⟩ := h.reply
  obtain rfl := Option.some.inj (hg.symm.trans ((hway.fresh k (Nat.le_refl k)).symm.trans hf))
  rw [hway.model_eq, Pipeline.turn, hway.timers_eq]
  apply hreply

/-- The input does not end before it has got to the feature. -/
theorem lt_attachedCount (h : GetsTo p m now input next k r)
    (hway : Approaches p m next k i p' m') :
  i < p'.attachedCount
  := by
  rw [hway.resembles.attachedCount_eq]
  apply Nat.lt_of_le_of_lt hway.le h.attached

/-- Whatever becomes of the input later, the feature is left as its reply says. -/
theorem own_dispatch (h : GetsTo p m now input next k r) :
  (p.dispatch m now input).pipeline.features[k]? = some r.feature
  := by
  have hown {i : Nat} {p' : Pipeline φ} {m' : μ} {f : φ} (hway : Approaches p m next k i p' m')
      (hi : ¬ i < k) (hf : p'.features[i]? = some f) :
      i = k ∧ (p'.after i now (Feature.handle f input (p'.turn m' i now))).features[k]?
        = some r.feature := by
    obtain rfl : i = k := Nat.le_antisymm hway.le (Nat.le_of_not_lt hi)
    obtain ⟨hlt, -⟩ := List.getElem?_eq_some_iff.mp hf
    rw [h.reply_eq hway hf, features_after, List.getElem?_set_self hlt]
    exact ⟨rfl, rfl⟩
  have hlater {i : Nat} {p' : Pipeline φ} {m' : μ} {f : φ} (hi : k < i)
      (hself : p'.features[k]? = some r.feature) :
      (p'.after i now (Feature.handle f input (p'.turn m' i now))).features[k]?
        = some r.feature := by
    rw [features_after, List.getElem?_set_ne (Nat.ne_of_gt hi), hself]
  apply dispatch_rule
    (C := fun i p' m' => Approaches p m next k i p' m'
      ∨ k < i ∧ p'.features[k]? = some r.feature)
    (D := fun p' _ => p'.features[k]? = some r.feature)
  case start => exact .inl ⟨Nat.zero_le k, rfl, rfl, .refl next k p, fun _ _ => rfl⟩
  case pass =>
    rintro i p' m' f (hway | ⟨hi, hself⟩) hf _ _
    · by_cases hi : i < k
      · exact .inl (h.pass hway hi hf).2
      · obtain ⟨rfl, hself⟩ := hown hway hi hf
        exact .inr ⟨Nat.lt_succ_self i, hself⟩
    · exact .inr ⟨Nat.lt_succ_of_lt hi, hlater hi hself⟩
  case stop =>
    rintro i p' m' f (hway | ⟨hi, hself⟩) hf _ hresult
    · by_cases hi : i < k
      · cases hresult (h.pass hway hi hf).1
      · apply (hown hway hi hf).2
    · apply hlater hi hself
  case done =>
    rintro i p' m' (hway | ⟨-, hself⟩) hattached
    · cases Nat.not_lt_of_le hattached (h.lt_attachedCount hway)
    · apply hself

/-- A feature that stops the input leaves those behind it as they are. -/
theorem getElem?_dispatch_of_stop (h : GetsTo p m now input next k r)
    (hstop : r.result ≠ .ok .pass) {j : Nat} (hj : k < j) :
  (p.dispatch m now input).pipeline.features[j]? = p.features[j]?
  := by
  apply dispatch_rule (C := fun i p' m' => Approaches p m next k i p' m')
    (D := fun p' _ => p'.features[j]? = p.features[j]?)
  case start => exact ⟨Nat.zero_le k, rfl, rfl, .refl next k p, fun _ _ => rfl⟩
  case pass =>
    intro i p' m' f hway hf _ hresult
    obtain hlt | rfl := Nat.lt_or_eq_of_le hway.le
    · apply (h.pass hway hlt hf).2
    · rw [h.reply_eq hway hf] at hresult
      cases hstop hresult
  case stop =>
    intro i p' m' f hway _ _ _
    apply fresh_after hway.fresh j (Nat.lt_of_le_of_lt hway.le hj)
  case done =>
    intro i p' m' hway _
    apply hway.fresh j (Nat.le_of_lt (Nat.lt_of_le_of_lt hway.le hj))

end GetsTo

namespace IsFor

/-- What has come of an input after it has left the feature that it is for. -/
structure Delivered (p : Pipeline φ) (next : φ → φ) (k : Nat) (r : Reply Flow φ μ)
    (p' : Pipeline φ) (m' : μ) : Prop where
  model_eq : m' = r.turn.model
  own : p'.features[k]? = some r.feature
  timers_eq : p'.timers = r.turn.timers
  resembles : p.Resembles next k p'

/-- How far an input has come when the feature at `i` is about to see it: the feature that it is
for is yet to do so, or has handed it on. -/
inductive OnTheWay (p : Pipeline φ) (m : μ) (next : φ → φ) (k : Nat) (r : Reply Flow φ μ) (i : Nat)
    (p' : Pipeline φ) (m' : μ) : Prop where
  | before (way : Approaches p m next k i p' m')
  | behind (hi : k < i) (result : r.result = .ok .pass) (delivered : Delivered p next k r p' m')
    (fresh : ∀ j, i ≤ j → p'.features[j]? = p.features[j]?)

/-- The feature that the input is for makes its reply. -/
theorem turn (h : IsFor p m now input next k r) (hway : Approaches p m next k k p' m') {f : φ}
    (hf : p'.features[k]? = some f) :
  Delivered p next k r (p'.after k now r) r.turn.model
  := by
  obtain ⟨hlt, -⟩ := List.getElem?_eq_some_iff.mp hf
  refine ⟨rfl, ?_, ?_, hway.resembles.after_self h.request now⟩
  · rw [features_after, List.getElem?_set_self hlt]
  · rw [after_of_request_none p' k now h.request]

/-- What comes of an input that is for one feature. -/
theorem dispatch (h : IsFor p m now input next k r) :
  Delivered p next k r (p.dispatch m now input).pipeline (p.dispatch m now input).model
  := by
  apply dispatch_rule (C := OnTheWay p m next k r)
  case start => exact .before ⟨Nat.zero_le k, rfl, rfl, .refl next k p, fun _ _ => rfl⟩
  case pass =>
    intro i p' m' f hway hf _ hresult
    cases hway with
    | before way =>
      obtain hlt | rfl := Nat.lt_or_eq_of_le way.le
      · exact .before (h.pass way hlt hf).2
      · rw [h.reply_eq way hf] at hresult ⊢
        exact .behind (Nat.lt_succ_self i) hresult (h.turn way hf) (fresh_after way.fresh)
    | behind hi result delivered fresh =>
      have hold := (fresh i (Nat.le_refl i)).symm.trans hf
      rw [h.behind result hi hold (p'.turn m' i now) delivered.model_eq]
      refine .behind (Nat.lt_succ_of_lt hi) result ?_ (fresh_after fresh)
      constructor
      case model_eq => apply delivered.model_eq
      case own =>
        rw [features_after, List.getElem?_set_ne (Nat.ne_of_gt hi)]
        apply delivered.own
      case timers_eq =>
        rw [after_of_request_none p' i now rfl]
        apply delivered.timers_eq
      case resembles =>
        apply delivered.resembles.after_other (fresh i (Nat.le_refl i)) hold
  case stop =>
    intro i p' m' f hway hf _ hresult
    cases hway with
    | before way =>
      obtain hlt | rfl := Nat.lt_or_eq_of_le way.le
      · cases hresult (h.pass way hlt hf).1
      · rw [h.reply_eq way hf]
        apply h.turn way hf
    | behind hi result delivered fresh =>
      have hold := (fresh i (Nat.le_refl i)).symm.trans hf
      rw [h.behind result hi hold (p'.turn m' i now) delivered.model_eq] at hresult
      cases hresult rfl
  case done =>
    intro i p' m' hway hattached
    cases hway with
    | before way => cases Nat.not_lt_of_le hattached (h.lt_attachedCount way)
    | behind _ _ delivered => apply delivered

end IsFor

/-! ### What a feature keeps -/

/-- The feature at an index is such that `P`. -/
def Has (p : Pipeline φ) (k : Nat) (P : φ → Prop) : Prop := ∃ f, p.features[k]? = some f ∧ P f

namespace Has

variable {P : φ → Prop}

omit [Feature φ μ ι] in
theorem after {β : Type} (h : p.Has k P) {f : φ} {r : Reply β φ μ} (hf : p.features[i]? = some f)
    (hkept : P f → P r.feature) (now : Float) :
  (p.after i now r).Has k P
  := by
  obtain ⟨g, hg, hP⟩ := h
  by_cases hi : i = k
  · subst hi
    obtain rfl := Option.some.inj (hg.symm.trans hf)
    obtain ⟨hlt, -⟩ := List.getElem?_eq_some_iff.mp hf
    refine ⟨r.feature, ?_, hkept hP⟩
    rw [features_after, List.getElem?_set_self hlt]
  · refine ⟨g, ?_, hP⟩
    rw [features_after, List.getElem?_set_ne hi, hg]

/-- What every feature keeps with an input is kept of the one at an index. -/
theorem dispatch (h : p.Has k P) (m : μ) (now : Float)
    (hkept : ∀ (f : φ) (t : Turn μ), P f → P (Feature.handle f input t).feature) :
  (p.dispatch m now input).pipeline.Has k P
  := by
  apply dispatch_keeps (M := fun p _ => p.Has k P) _ h
  intro i p m f h hf _
  apply h.after hf (hkept f (p.turn m i now)) now

/-- What every feature keeps with a timer is kept of the one at an index. -/
theorem tick (ι : Type) [Feature φ μ ι] (h : p.Has k P) (m : μ) (now : Float)
    (hkept : ∀ (f : φ) (token : TimerToken) (t : Turn μ), P f →
      P (Feature.fire ι f token t).feature) :
  (p.tick ι m now).pipeline.Has k P
  := by
  apply tick_keeps (M := fun p _ => p.Has k P) _ _ _ h
  · intro i p m f token h hf
    apply h.after hf (hkept f token (p.turn m i now)) now
  · intro p m h
    apply h
  · intro p m h
    apply h

end Has

end DataGrid.Pipeline
