import Mathlib.Tactic.ByContra
import DataGrid.Proofs.Pipeline.Rules

/-!
# Who sees an input

An input is offered to the features from the first one on (`Pipeline.visits`).  How far it gets is
decided anew after each of them, by what the feature answers and by what it asks of the pipeline
(`Visit.Ends`, `Pipeline.offers_dispatch`).  An error is given back, and apart from that it is as if
the feature had stopped the input (`Pipeline.dispatch_stopping`).
-/

namespace DataGrid

namespace Pipeline

variable {φ μ ι β : Type}

/-! ### What a turn does to the chain of features -/

theorem detachedAt_after (p : Pipeline φ) (index : Nat) (now : Float) (r : Reply β φ μ) :
  (p.after index now r).detachedAt
    = if r.turn.request.reattachNow then none
      else if r.turn.request.detach then some index else p.detachedAt
  := by
  rw [after, grant]
  dsimp only
  cases r.turn.request.detach <;> cases r.turn.request.reattachNow <;>
    cases r.turn.request.reattachAfter <;> rfl

theorem reattachToken_after (p : Pipeline φ) (index : Nat) (now : Float) (r : Reply β φ μ) :
  (p.after index now r).reattachToken
    = match r.turn.request.reattachAfter with
      | some _ => some r.turn.timers.next
      | none =>
        if r.turn.request.reattachNow || r.turn.request.detach then none else p.reattachToken
  := by
  rw [after, grant]
  dsimp only
  cases r.turn.request.detach <;> cases r.turn.request.reattachNow <;>
    cases r.turn.request.reattachAfter <;> rfl

theorem next_timers_after (p : Pipeline φ) (index : Nat) (now : Float) (r : Reply β φ μ) :
  (p.after index now r).timers.next
    = match r.turn.request.reattachAfter with
      | some _ => r.turn.timers.next + 1
      | none => r.turn.timers.next
  := by
  rw [after, grant]
  dsimp only
  cases r.turn.request.detach <;> cases r.turn.request.reattachNow <;>
    cases r.turn.request.reattachAfter <;> rfl

theorem attachedCount_le_of_detachedAt {p : Pipeline φ} {i : Nat} (h : p.detachedAt = some i) :
  p.attachedCount ≤ i + 1
  := by
  rw [attachedCount, h]
  apply Nat.min_le_left

/-- The first feature is always attached. -/
theorem attachedCount_eq_zero_iff (p : Pipeline φ) :
  p.attachedCount = 0 ↔ p.features = []
  := by
  rw [attachedCount, ← List.length_eq_zero_iff]
  split
  · rfl
  · omega

/-! ### Visits -/

/-- A feature that is offered an input, with the pipeline and the model that it finds. -/
structure Visit (φ μ : Type) where
  index : Nat
  feature : φ
  pipeline : Pipeline φ
  model : μ

variable [Feature φ μ ι]

namespace Visit

/-- What the feature answers. -/
def reply (input : ι) (now : Float) (x : Visit φ μ) : Reply Flow φ μ :=
  Feature.handle x.feature input (x.pipeline.turn x.model x.index now)

/-- What is left after the turn of the feature. -/
def outcome (input : ι) (now : Float) (x : Visit φ μ) : Outcome φ μ :=
  ⟨(x.reply input now).result.map fun _ => (),
    x.pipeline.after x.index now (x.reply input now), (x.reply input now).turn.model⟩

/-- The feature cuts off those after it and does not attach them again in the same turn. -/
def CutsOff (input : ι) (now : Float) (x : Visit φ μ) : Prop :=
  (x.reply input now).turn.request.detach = true
    ∧ (x.reply input now).turn.request.reattachNow = false

/-- The input gets no further: the feature stops it or fails, it cuts off those after it, or it is
the last one that is attached by then. -/
def Ends (input : ι) (now : Float) (x : Visit φ μ) : Prop :=
  (x.reply input now).result ≠ .ok .pass ∨ x.CutsOff input now
    ∨ (x.outcome input now).pipeline.attachedCount ≤ x.index + 1

variable {input : ι} {now : Float} {x : Visit φ μ}

theorem CutsOff.attachedCount_le (h : x.CutsOff input now) :
  (x.outcome input now).pipeline.attachedCount ≤ x.index + 1
  := by
  apply attachedCount_le_of_detachedAt
  change (x.pipeline.after x.index now (x.reply input now)).detachedAt = _
  rw [detachedAt_after, h.2, h.1]
  rfl

/-- Where an input can go on, it does. -/
theorem not_ends_iff :
  ¬ x.Ends input now
    ↔ (x.reply input now).result = .ok .pass
      ∧ x.index + 1 < (x.outcome input now).pipeline.attachedCount
  := by
  constructor
  · intro h
    refine ⟨?_, ?_⟩
    · by_contra hne
      apply h (.inl hne)
    · by_contra hle
      apply h (.inr (.inr (Nat.le_of_not_lt hle)))
  · rintro ⟨hpass, hlt⟩ (hne | hcuts | hle)
    · apply hne hpass
    · apply Nat.lt_irrefl _ (Nat.lt_of_lt_of_le hlt hcuts.attachedCount_le)
    · apply Nat.lt_irrefl _ (Nat.lt_of_lt_of_le hlt hle)

end Visit

/-- The features that an input is offered to, of at most `left` from the one at `index` on. -/
def visitsFrom (input : ι) (now : Float) :
    (left index : Nat) → Pipeline φ → μ → List (Visit φ μ)
  | 0, _, _, _ => []
  | left + 1, index, p, m =>
    match p.features[index]? with
    | none => []
    | some f =>
      if index < p.attachedCount then
        let x : Visit φ μ := ⟨index, f, p, m⟩
        x ::
          match (x.reply input now).result with
          | .ok .pass =>
            visitsFrom input now left (index + 1) (x.outcome input now).pipeline
              (x.outcome input now).model
          | _ => []
      else []

/-- The features that see an input, in the order in which they do. -/
def visits (p : Pipeline φ) (m : μ) (now : Float) (input : ι) : List (Visit φ μ) :=
  visitsFrom input now p.features.length 0 p m

section From

variable {input : ι} {now : Float} {left index : Nat} {p : Pipeline φ} {m : μ} {x y : Visit φ μ}

/-- The feature at an index is about to see an input. -/
structure IsNext (index : Nat) (p : Pipeline φ) (m : μ) (x : Visit φ μ) : Prop where
  index_eq : x.index = index
  pipeline_eq : x.pipeline = p
  model_eq : x.model = m
  feature_eq : p.features[index]? = some x.feature
  attached : index < p.attachedCount

theorem visitsFrom_succ (input : ι) (now : Float) (left : Nat) (h : IsNext index p m x) :
  visitsFrom input now (left + 1) index p m
    = x ::
      match (x.reply input now).result with
      | .ok .pass =>
        visitsFrom input now left (index + 1) (x.outcome input now).pipeline
          (x.outcome input now).model
      | _ => []
  := by
  obtain ⟨i, f, q, n⟩ := x
  obtain ⟨rfl, rfl, rfl, hf, hattached⟩ := h
  rw [visitsFrom, hf]
  exact if_pos hattached

theorem dispatchFrom_succ (input : ι) (now : Float) (left : Nat) (h : IsNext index p m x) :
  dispatchFrom input now (left + 1) index p m
    = match (x.reply input now).result with
      | .ok .pass =>
        dispatchFrom input now left (index + 1) (x.outcome input now).pipeline
          (x.outcome input now).model
      | _ => x.outcome input now
  := by
  obtain ⟨i, f, q, n⟩ := x
  obtain ⟨rfl, rfl, rfl, hf, hattached⟩ := h
  rw [dispatchFrom, hf]
  apply (if_pos hattached).trans
  rw [Visit.outcome, Visit.reply]
  dsimp only at hf ⊢
  cases (Feature.handle f input (q.turn n i now)).result with
  | ok flow => cases flow <;> rfl
  | error e => rfl

/-- Nobody is left to see the input, or the next feature sees it and does not pass it on, or it does
so to those after it. -/
inductive VisitsCases (input : ι) (now : Float) (left index : Nat) (p : Pipeline φ) (m : μ) :
    Prop where
  | done (detached : p.attachedCount ≤ index)
    (visits : visitsFrom input now left index p m = [])
    (dispatch : dispatchFrom input now left index p m = ⟨.ok (), p, m⟩)
  | stop (x : Visit φ μ) (next : IsNext index p m x)
    (result : (x.reply input now).result ≠ .ok .pass)
    (visits : visitsFrom input now left index p m = [x])
    (dispatch : dispatchFrom input now left index p m = x.outcome input now)
  | pass (x : Visit φ μ) (others : Nat) (left_eq : left = others + 1) (next : IsNext index p m x)
    (result : (x.reply input now).result = .ok .pass)
    (visits : visitsFrom input now left index p m
      = x :: visitsFrom input now others (index + 1) (x.outcome input now).pipeline
          (x.outcome input now).model)
    (dispatch : dispatchFrom input now left index p m
      = dispatchFrom input now others (index + 1) (x.outcome input now).pipeline
          (x.outcome input now).model)

theorem visitsFrom_cases (input : ι) (now : Float) {left index : Nat} {p : Pipeline φ} (m : μ)
    (hleft : p.features.length ≤ left + index) :
  VisitsCases input now left index p m
  := by
  by_cases hattached : index < p.attachedCount
  case neg =>
    apply VisitsCases.done (Nat.le_of_not_lt hattached)
    · cases left with
      | zero => rfl
      | succ left =>
        rw [visitsFrom]
        split
        · rfl
        · rw [if_neg hattached]
    · cases left with
      | zero => rfl
      | succ left =>
        rw [dispatchFrom]
        split
        · rfl
        · rw [if_neg hattached]
  case pos =>
    have hlt := Nat.lt_of_lt_of_le hattached p.attachedCount_le
    obtain ⟨others, rfl⟩ : ∃ others, left = others + 1 := Nat.exists_eq_add_one.mpr (by omega)
    have hnext : IsNext index p m ⟨index, p.features[index], p, m⟩ :=
      ⟨rfl, rfl, rfl, List.getElem?_eq_getElem hlt, hattached⟩
    have hvisits := visitsFrom_succ input now others hnext
    have hdispatch := dispatchFrom_succ input now others hnext
    generalize (⟨index, p.features[index], p, m⟩ : Visit φ μ) = x at *
    cases h : (x.reply input now).result with
    | ok flow =>
      rw [h] at hvisits hdispatch
      cases flow with
      | pass => exact .pass x others rfl hnext h hvisits hdispatch
      | stop =>
        apply VisitsCases.stop x hnext _ hvisits hdispatch
        simp [h]
    | error e =>
      rw [h] at hvisits hdispatch
      apply VisitsCases.stop x hnext _ hvisits hdispatch
      simp [h]

theorem length_features_outcome (x : Visit φ μ) :
  (x.outcome input now).pipeline.features.length = x.pipeline.features.length
  := by
  change (x.pipeline.after x.index now _).features.length = _
  rw [features_after, List.length_set]

/-- The loop has room for all the features that are left. -/
theorem IsNext.length_le (h : IsNext index p m x) {others : Nat}
    (hleft : p.features.length ≤ others + 1 + index) :
  (x.outcome input now).pipeline.features.length ≤ others + (index + 1)
  := by
  rw [length_features_outcome, h.pipeline_eq]
  omega

theorem indexes_visitsFrom (hleft : p.features.length ≤ left + index) :
  (visitsFrom input now left index p m).map (·.index)
    = List.range' index (visitsFrom input now left index p m).length
  := by
  induction left generalizing index p m with
  | zero => rfl
  | succ left ih =>
    cases visitsFrom_cases input now m hleft with
    | done _ hvisits _ =>
      rw [hvisits]
      rfl
    | stop x hnext _ hvisits _ =>
      rw [hvisits, List.map_singleton, hnext.index_eq]
      rfl
    | pass x others heq hnext _ hvisits _ =>
      obtain rfl := Nat.succ.inj heq
      rw [hvisits, List.map_cons, List.length_cons, List.range'_succ, hnext.index_eq,
        ih (hnext.length_le hleft)]

/-- What one of the visits finds. -/
theorem isNext_of_mem_visitsFrom (hleft : p.features.length ≤ left + index)
    (hx : x ∈ visitsFrom input now left index p m) :
  IsNext x.index x.pipeline x.model x
  := by
  induction left generalizing index p m with
  | zero => cases hx
  | succ left ih =>
    cases visitsFrom_cases input now m hleft with
    | done _ hvisits _ =>
      rw [hvisits] at hx
      cases hx
    | stop y hnext _ hvisits _ =>
      rw [hvisits] at hx
      obtain rfl := List.mem_singleton.mp hx
      obtain ⟨rfl, rfl, rfl, hf, hattached⟩ := hnext
      exact ⟨rfl, rfl, rfl, hf, hattached⟩
    | pass y others heq hnext _ hvisits _ =>
      obtain rfl := Nat.succ.inj heq
      rw [hvisits] at hx
      obtain rfl | hx := List.mem_cons.mp hx
      · obtain ⟨rfl, rfl, rfl, hf, hattached⟩ := hnext
        exact ⟨rfl, rfl, rfl, hf, hattached⟩
      · apply ih (hnext.length_le hleft) hx

theorem getElem?_zero_visitsFrom (hleft : p.features.length ≤ left + index)
    (hx : (visitsFrom input now left index p m)[0]? = some x) :
  IsNext index p m x
  := by
  cases visitsFrom_cases input now m hleft with
  | done _ hvisits _ =>
    rw [hvisits] at hx
    cases hx
  | stop y hnext _ hvisits _ =>
    rw [hvisits] at hx
    obtain rfl := Option.some.inj hx
    apply hnext
  | pass y others _ hnext _ hvisits _ =>
    rw [hvisits] at hx
    obtain rfl := Option.some.inj hx
    apply hnext

/-- The input gets on where the one before passes it on, and the next one is still attached then. -/
theorem isNext_of_next (hleft : p.features.length ≤ left + index) {n : Nat}
    (hx : (visitsFrom input now left index p m)[n]? = some x)
    (hy : (visitsFrom input now left index p m)[n + 1]? = some y) :
  (x.reply input now).result = .ok .pass
    ∧ IsNext (x.index + 1) (x.outcome input now).pipeline (x.outcome input now).model y
  := by
  induction left generalizing index p m n with
  | zero => cases hx
  | succ left ih =>
    cases visitsFrom_cases input now m hleft with
    | done _ hvisits _ =>
      rw [hvisits] at hx
      cases hx
    | stop _ _ _ hvisits _ =>
      rw [hvisits] at hy
      cases hy
    | pass z others heq hnext hpass hvisits _ =>
      obtain rfl := Nat.succ.inj heq
      rw [hvisits] at hx hy
      cases n with
      | zero =>
        obtain rfl := Option.some.inj hx
        apply And.intro hpass
        rw [hnext.index_eq]
        apply getElem?_zero_visitsFrom (hnext.length_le hleft) hy
      | succ n => apply ih (hnext.length_le hleft) hx hy

/-- If whoever passes an input on does nothing else, everybody who sees it finds all as it was. -/
theorem eq_of_mem_visitsFrom
    (hidle : ∀ (f : φ) (t : Turn μ), (Feature.handle f input t).result = .ok .pass →
      Feature.handle f input t = ⟨.ok .pass, f, t⟩)
    (hleft : p.features.length ≤ left + index) (hx : x ∈ visitsFrom input now left index p m) :
  x.pipeline = p ∧ x.model = m
  := by
  induction left generalizing index with
  | zero => cases hx
  | succ left ih =>
    cases visitsFrom_cases input now m hleft with
    | done _ hvisits _ =>
      rw [hvisits] at hx
      cases hx
    | stop y hnext _ hvisits _ =>
      rw [hvisits] at hx
      obtain rfl := List.mem_singleton.mp hx
      exact ⟨hnext.pipeline_eq, hnext.model_eq⟩
    | pass y others heq hnext hpass hvisits _ =>
      obtain rfl := Nat.succ.inj heq
      rw [hvisits] at hx
      obtain rfl | hx := List.mem_cons.mp hx
      · exact ⟨hnext.pipeline_eq, hnext.model_eq⟩
      · obtain ⟨i, f, q, n⟩ := y
        obtain ⟨rfl, rfl, rfl, hf, -⟩ := hnext
        have hreply : (⟨i, f, q, n⟩ : Visit φ μ).reply input now = ⟨.ok .pass, f, q.turn n i now⟩ :=
          hidle f (q.turn n i now) hpass
        rw [Visit.outcome, hreply, after_eq_self now hf rfl rfl] at hx
        apply ih _ hx
        omega

/-- The last one to see the input is one with which it ends. -/
theorem ends_of_getLast? (hleft : p.features.length ≤ left + index)
    (hx : (visitsFrom input now left index p m).getLast? = some x) :
  x.Ends input now
  := by
  induction left generalizing index p m with
  | zero => cases hx
  | succ left ih =>
    cases visitsFrom_cases input now m hleft with
    | done _ hvisits _ =>
      rw [hvisits] at hx
      cases hx
    | stop y _ hresult hvisits _ =>
      rw [hvisits] at hx
      obtain rfl := Option.some.inj hx
      exact .inl hresult
    | pass y others heq hnext _ hvisits _ =>
      obtain rfl := Nat.succ.inj heq
      have hleft' : (y.outcome input now).pipeline.features.length ≤ left + (index + 1) :=
        hnext.length_le hleft
      rw [hvisits, List.getLast?_cons] at hx
      cases hothers : (visitsFrom input now left (index + 1) (y.outcome input now).pipeline
          (y.outcome input now).model).getLast? with
      | some z =>
        rw [hothers] at hx
        obtain rfl := Option.some.inj hx
        apply ih hleft' hothers
      | none =>
        -- nobody is left to see the input
        rw [hothers] at hx
        have hxy : y = x := Option.some.inj hx
        rw [← hxy]
        cases visitsFrom_cases input now (y.outcome input now).model hleft' with
        | done hdetached _ _ =>
          rw [← hnext.index_eq] at hdetached
          exact .inr (.inr hdetached)
        | stop z _ _ hvisits' _ =>
          rw [hvisits'] at hothers
          cases hothers
        | pass z _ _ _ _ hvisits' _ =>
          rw [hvisits', List.getLast?_cons] at hothers
          cases hothers

/-- What the last one leaves is what is left of the dispatch. -/
theorem dispatchFrom_eq_outcome (hleft : p.features.length ≤ left + index) :
  dispatchFrom input now left index p m
    = ((visitsFrom input now left index p m).getLast?.map (·.outcome input now)).getD
        ⟨.ok (), p, m⟩
  := by
  induction left generalizing index p m with
  | zero => rfl
  | succ left ih =>
    cases visitsFrom_cases input now m hleft with
    | done _ hvisits hdispatch =>
      rw [hvisits, hdispatch]
      rfl
    | stop x _ _ hvisits hdispatch =>
      rw [hvisits, hdispatch]
      rfl
    | pass x others heq hnext hpass hvisits hdispatch =>
      obtain rfl := Nat.succ.inj heq
      rw [hvisits, hdispatch, ih (hnext.length_le hleft), List.getLast?_cons]
      cases (visitsFrom input now left (index + 1) (x.outcome input now).pipeline
        (x.outcome input now).model).getLast? with
      | some y => rfl
      | none =>
        have hok : (x.outcome input now).result = .ok () := by
          rw [Visit.outcome, hpass]
          rfl
        rw [← hok]
        rfl

end From

/-! ### A whole dispatch -/

/-- How an input is offered.  The features see it in order, from the first one on, each once
(`indexes`, `nonempty`, `called`), each with what the one before has left (`first`, `next`), up to
the first one with which it ends (`goesOn`, `ends`).  What that one leaves is left of the dispatch,
with its error if it fails (`last`). -/
structure Offers (p : Pipeline φ) (m : μ) (now : Float) (input : ι) : Prop where
  indexes : (p.visits m now input).map (·.index) = List.range (p.visits m now input).length
  nonempty : p.features ≠ [] → p.visits m now input ≠ []
  called : ∀ {x : Visit φ μ}, x ∈ p.visits m now input →
    x.pipeline.features[x.index]? = some x.feature
  first : ∀ {x : Visit φ μ}, (p.visits m now input)[0]? = some x → x.pipeline = p ∧ x.model = m
  next : ∀ {n : Nat} {x y : Visit φ μ}, (p.visits m now input)[n]? = some x →
    (p.visits m now input)[n + 1]? = some y →
    x.outcome input now = ⟨.ok (), y.pipeline, y.model⟩
  goesOn : ∀ {n : Nat} {x : Visit φ μ}, (p.visits m now input)[n]? = some x →
    n + 1 < (p.visits m now input).length → ¬ x.Ends input now
  ends : ∀ {x : Visit φ μ}, (p.visits m now input).getLast? = some x → x.Ends input now
  last : p.dispatch m now input
    = ((p.visits m now input).getLast?.map (·.outcome input now)).getD ⟨.ok (), p, m⟩

theorem offers_dispatch (p : Pipeline φ) (m : μ) (now : Float) (input : ι) :
  p.Offers m now input
  := by
  have hleft : p.features.length ≤ p.features.length + 0 := Nat.le_refl _
  constructor
  case indexes =>
    rw [List.range_eq_range']
    apply indexes_visitsFrom hleft
  case nonempty =>
    intro hfeatures hnone
    cases visitsFrom_cases input now m hleft with
    | done hdetached _ _ =>
      apply hfeatures
      apply p.attachedCount_eq_zero_iff.mp (Nat.le_zero.mp hdetached)
    | stop _ _ _ hvisits _ => cases hvisits.symm.trans hnone
    | pass _ _ _ _ _ hvisits _ => cases hvisits.symm.trans hnone
  case called =>
    intro x hx
    apply (isNext_of_mem_visitsFrom hleft hx).feature_eq
  case first =>
    intro x hx
    have hnext := getElem?_zero_visitsFrom hleft hx
    exact ⟨hnext.pipeline_eq, hnext.model_eq⟩
  case next =>
    intro n x y hx hy
    obtain ⟨hpass, hnext⟩ := isNext_of_next hleft hx hy
    rw [hnext.pipeline_eq, hnext.model_eq, Visit.outcome, hpass]
    rfl
  case goesOn =>
    intro n x hx hn
    obtain ⟨hpass, hnext⟩ := isNext_of_next hleft hx (List.getElem?_eq_getElem hn)
    apply Visit.not_ends_iff.mpr ⟨hpass, hnext.attached⟩
  case ends =>
    intro x hx
    apply ends_of_getLast? hleft hx
  case last => apply dispatchFrom_eq_outcome hleft

/-- An input that is not passed on gets no further. -/
theorem dispatch_eq_outcome {p : Pipeline φ} {m : μ} {now : Float} {input : ι} {x : Visit φ μ}
    (hx : x ∈ p.visits m now input) (hresult : (x.reply input now).result ≠ .ok .pass) :
  p.dispatch m now input = x.outcome input now
  := by
  have hoffers := p.offers_dispatch m now input
  obtain ⟨n, hn, hget⟩ := List.getElem_of_mem hx
  have hget : (p.visits m now input)[n]? = some x := List.getElem?_eq_some_iff.mpr ⟨hn, hget⟩
  have hlast : (p.visits m now input).length ≤ n + 1 := by
    by_contra hnot
    exact hoffers.goesOn hget (Nat.lt_of_not_le hnot) (.inl hresult)
  have hlength : (p.visits m now input).length - 1 = n := by omega
  rw [hoffers.last, List.getLast?_eq_getElem?, hlength, hget]
  rfl

end Pipeline

/-! ### Errors -/

/-- The same features, which stop an input where they would fail with it. -/
@[reducible]
def Feature.stopping (φ μ ι : Type) [Feature φ μ ι] : Feature φ μ ι where
  handle f input t :=
    let r := Feature.handle f input t
    { r with
      result := match r.result with
        | .ok flow => .ok flow
        | .error _ => .ok .stop }
  fire := Feature.fire ι

theorem Feature.result_stopping {φ μ ι : Type} [Feature φ μ ι] (f : φ) (input : ι) (t : Turn μ) :
  (@Feature.handle φ μ ι (.stopping φ μ ι) f input t).result
    = match (Feature.handle f input t).result with
      | .ok flow => .ok flow
      | .error _ => .ok .stop
  := rfl

namespace Pipeline

variable {φ μ ι : Type} [Feature φ μ ι]

theorem dispatchFrom_stopping (input : ι) (now : Float) (left index : Nat) (p : Pipeline φ)
    (m : μ) :
  @dispatchFrom φ μ ι (.stopping φ μ ι) input now left index p m
    = { dispatchFrom input now left index p m with result := .ok () }
  := by
  induction left generalizing index p m with
  | zero => rfl
  | succ left ih =>
    simp only [dispatchFrom]
    cases p.features[index]? with
    | none => rfl
    | some f =>
      by_cases hattached : index < p.attachedCount
      · simp only [if_pos hattached, Feature.result_stopping]
        cases (Feature.handle f input (p.turn m index now)).result with
        | error e => rfl
        | ok flow =>
          cases flow with
          | stop => rfl
          | pass => apply ih
      · simp only [if_neg hattached]

/-- An error is given back and does nothing else: the pipeline and the model are left as if the
feature had stopped the input. -/
theorem dispatch_stopping (p : Pipeline φ) (m : μ) (now : Float) (input : ι) :
  @dispatch φ μ ι (.stopping φ μ ι) p m now input
    = { p.dispatch m now input with result := .ok () }
  := dispatchFrom_stopping _ _ _ _ _ _

end Pipeline

end DataGrid
