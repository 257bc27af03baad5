import DataGrid.Pipeline

/-!
# Rules for pipelines

What holds of a pipeline and a model after an input has been offered to the features, or after
timers have gone off, follows from what holds after one turn of one feature: `dispatch_rule` follows
an input from feature to feature, and what every turn keeps (`Pipeline.Keeps`) is kept by a whole
dispatch and a whole tick.
-/

namespace DataGrid

namespace Timers

/-- The numbers of the timers that wait have been given out. -/
def IsNumbered (ts : Timers) : Prop := ∀ t ∈ ts.pending, t.token < ts.next

/-- The feature at an index has set some timers, maybe none. -/
inductive Extends (owner : Nat) (ts : Timers) : Timers → Prop where
  | refl : Extends owner ts ts
  | schedule {ts' : Timers} (due : Float) :
    Extends owner ts ts' → Extends owner ts (ts'.schedule (.feature owner) due).2

theorem Extends.trans {owner : Nat} {ts ts' ts'' : Timers} (h : ts.Extends owner ts')
    (h' : ts'.Extends owner ts'') :
  ts.Extends owner ts''
  := by
  induction h' with
  | refl => apply h
  | schedule due _ ih => apply ih.schedule

/-- A timer that waits goes on waiting when others are set. -/
theorem Extends.mem_pending {owner : Nat} {ts ts' : Timers} (h : ts.Extends owner ts') {t : Timer}
    (ht : t ∈ ts.pending) :
  t ∈ ts'.pending
  := by
  induction h with
  | refl => apply ht
  | schedule due _ ih => apply List.mem_append_left _ ih

theorem IsNumbered.schedule {ts : Timers} (h : ts.IsNumbered) (target : TimerTarget) (due : Float) :
  (ts.schedule target due).2.IsNumbered
  := by
  intro t ht
  obtain ht | ht := List.mem_append.mp ht
  · apply Nat.lt_succ_of_lt (h t ht)
  · obtain rfl := List.mem_singleton.mp ht
    apply Nat.lt_succ_self

theorem IsNumbered.extends {owner : Nat} {ts ts' : Timers} (h : ts.IsNumbered)
    (hts : ts.Extends owner ts') :
  ts'.IsNumbered
  := by
  induction hts with
  | refl => apply h
  | schedule due _ ih => apply ih.schedule

/-- A due timer has been waiting. -/
theorem mem_pending_of_mem_takeDue {ts : Timers} {now : Float} {t : Timer}
    (h : t ∈ (ts.takeDue now).1) :
  t ∈ ts.pending
  := (List.mem_filter.mp (List.mem_mergeSort.mp h)).1

/-- A timer that waits is taken or left, by whether it is due. -/
theorem mem_takeDue {ts : Timers} {t : Timer} (h : t ∈ ts.pending) (now : Float) :
  (t.due ≤ now ∧ t ∈ (ts.takeDue now).1) ∨ (¬ t.due ≤ now ∧ t ∈ (ts.takeDue now).2.pending)
  := by
  by_cases hdue : t.due ≤ now
  · refine Or.inl ⟨hdue, ?_⟩
    apply List.mem_mergeSort.mpr (List.mem_filter.mpr ⟨h, decide_eq_true hdue⟩)
  · refine Or.inr ⟨hdue, List.mem_filter.mpr ⟨h, ?_⟩⟩
    rw [decide_eq_false hdue]
    rfl

theorem IsNumbered.takeDue {ts : Timers} (h : ts.IsNumbered) (now : Float) :
  (ts.takeDue now).2.IsNumbered
  := by
  intro t ht
  apply h t (List.mem_filter.mp ht).1

end Timers

namespace Pipeline

variable {φ μ ι : Type}

/-! ### The parts of a pipeline after a turn -/

/-- When one item of a list has been replaced, every item is the new one or an old one. -/
theorem getElem?_set_cases {β : Type} {items : List β} {i j : Nat} {a b : β}
    (h : (items.set i a)[j]? = some b) :
  (j = i ∧ b = a) ∨ (j ≠ i ∧ items[j]? = some b)
  := by
  by_cases hj : j = i
  · obtain rfl := hj
    obtain ⟨hlt, -⟩ := List.getElem?_eq_some_iff.mp h
    rw [List.length_set] at hlt
    rw [List.getElem?_set_self hlt] at h
    apply Or.inl ⟨rfl, (Option.some.inj h).symm⟩
  · rw [List.getElem?_set_ne (Ne.symm hj)] at h
    apply Or.inr ⟨hj, h⟩

@[simp]
theorem features_grant (p : Pipeline φ) (r : ChainRequest) (index : Nat) (now : Float) :
  (p.grant r index now).features = p.features
  := by
  rw [grant]
  dsimp only
  cases r.detach <;> cases r.reattachNow <;> cases r.reattachAfter <;> rfl

@[simp]
theorem features_after {β : Type} (p : Pipeline φ) (index : Nat) (now : Float) (r : Reply β φ μ) :
  (p.after index now r).features = p.features.set index r.feature
  := features_grant _ _ _ _

/-- The feature that has had a turn is one of those after it. -/
theorem mem_features_after {β : Type} {p : Pipeline φ} {index : Nat} {f : φ}
    (hf : p.features[index]? = some f) (now : Float) (r : Reply β φ μ) :
  r.feature ∈ (p.after index now r).features
  := by
  obtain ⟨hlt, -⟩ := List.getElem?_eq_some_iff.mp hf
  rw [features_after]
  apply List.mem_of_getElem? (List.getElem?_set_self hlt)

/-- A feature with a property is the one that has a turn, or it is there after it. -/
theorem exists_mem_features_after {β : Type} {p : Pipeline φ} {index : Nat} {f : φ}
    (hf : p.features[index]? = some f) (now : Float) (r : Reply β φ μ) {P : φ → Prop}
    (h : ∃ g ∈ p.features, P g) :
  P f ∨ ∃ g ∈ (p.after index now r).features, P g
  := by
  obtain ⟨g, hg, hP⟩ := h
  obtain ⟨j, hj⟩ := List.mem_iff_getElem?.mp hg
  by_cases hij : index = j
  · obtain rfl := hij
    obtain rfl := Option.some.inj (hf.symm.trans hj)
    exact .inl hP
  · refine .inr ⟨g, ?_, hP⟩
    rw [features_after]
    apply List.mem_of_getElem? ((List.getElem?_set_ne hij).trans hj)

theorem isNumbered_grant {p : Pipeline φ} (h : p.timers.IsNumbered) (r : ChainRequest)
    (index : Nat) (now : Float) :
  (p.grant r index now).timers.IsNumbered
  := by
  rw [grant]
  dsimp only
  -- Only a reattachment that is asked for sets a timer.
  cases r.reattachAfter with
  | none => cases r.detach <;> cases r.reattachNow <;> apply h
  | some delay => cases r.detach <;> cases r.reattachNow <;> apply h.schedule

/-- A turn in which nothing is asked of the pipeline changes the feature and the timers alone. -/
theorem after_of_request_none {β : Type} (p : Pipeline φ) (index : Nat) (now : Float)
    {r : Reply β φ μ} (h : r.turn.request = .none) :
  p.after index now r
    = { p with features := p.features.set index r.feature, timers := r.turn.timers }
  := by
  rw [after, h]
  rfl

/-- A turn in which the feature asks only to cut off those after it. -/
theorem after_of_request_detach {β : Type} (p : Pipeline φ) (index : Nat) (now : Float)
    {r : Reply β φ μ} (h : r.turn.request = { ChainRequest.none with detach := true }) :
  p.after index now r
    = { p with
        features := p.features.set index r.feature
        detachedAt := some index
        timers := r.turn.timers
        reattachToken := none }
  := by
  rw [after, h]
  rfl

/-- A turn in which the feature asks only to have those after it attached at once. -/
theorem after_of_request_reattachNow {β : Type} (p : Pipeline φ) (index : Nat) (now : Float)
    {r : Reply β φ μ} (h : r.turn.request = { ChainRequest.none with reattachNow := true }) :
  p.after index now r
    = { p with
        features := p.features.set index r.feature
        detachedAt := none
        timers := r.turn.timers
        reattachToken := none }
  := by
  rw [after, h]
  rfl

/-- A turn in which the feature asks only to have those after it attached later on. -/
theorem after_of_request_reattachAfter {β : Type} (p : Pipeline φ) (index : Nat) (now : Float)
    {r : Reply β φ μ} {delay : Float}
    (h : r.turn.request = { ChainRequest.none with reattachAfter := some delay }) :
  p.after index now r
    = { p with
        features := p.features.set index r.feature
        timers := (r.turn.timers.schedule .reattach (now + delay)).2
        reattachToken := some r.turn.timers.next }
  := by
  rw [after, h]
  rfl

/-- A turn in which a feature changes nothing but the model leaves the pipeline as it is. -/
theorem after_eq_self {β : Type} {p : Pipeline φ} {index : Nat} (now : Float) {r : Reply β φ μ}
    (hf : p.features[index]? = some r.feature) (htimers : r.turn.timers = p.timers)
    (hrequest : r.turn.request = .none) :
  p.after index now r = p
  := by
  obtain ⟨hlt, hfeature⟩ := List.getElem?_eq_some_iff.mp hf
  rw [after_of_request_none p index now hrequest, htimers, ← hfeature,
    List.set_getElem_self hlt]

theorem attachedCount_le (p : Pipeline φ) :
  p.attachedCount ≤ p.features.length
  := by
  rw [attachedCount]
  split
  · apply Nat.le_refl
  · apply Nat.min_le_right

/-! ### Following an input -/

section Dispatch

variable [Feature φ μ ι] {input : ι} {now : Float}

/-- A rule for the loop over the features.  `C index` holds when the feature at `index` is about to
see the input, and `D` when the input has stopped. -/
theorem dispatchFrom_rule {C : Nat → Pipeline φ → μ → Prop} {D : Pipeline φ → μ → Prop}
    (pass : ∀ {index : Nat} {p : Pipeline φ} {m : μ} {f : φ}, C index p m →
      p.features[index]? = some f → index < p.attachedCount →
      (Feature.handle f input (p.turn m index now)).result = .ok .pass →
      C (index + 1) (p.after index now (Feature.handle f input (p.turn m index now)))
        (Feature.handle f input (p.turn m index now)).turn.model)
    (stop : ∀ {index : Nat} {p : Pipeline φ} {m : μ} {f : φ}, C index p m →
      p.features[index]? = some f → index < p.attachedCount →
      (Feature.handle f input (p.turn m index now)).result ≠ .ok .pass →
      D (p.after index now (Feature.handle f input (p.turn m index now)))
        (Feature.handle f input (p.turn m index now)).turn.model)
    (done : ∀ {index : Nat} {p : Pipeline φ} {m : μ}, C index p m → p.attachedCount ≤ index →
      D p m) :
  ∀ {left index : Nat} {p : Pipeline φ} {m : μ}, p.features.length ≤ left + index → C index p m →
    D (dispatchFrom input now left index p m).pipeline (dispatchFrom input now left index p m).model
  | 0, index, p, m, hleft, hC => by
    apply done hC (Nat.le_trans p.attachedCount_le _)
    omega
  | left + 1, index, p, m, hleft, hC => by
    rw [dispatchFrom]
    cases hf : p.features[index]? with
    | none =>
      apply done hC (Nat.le_trans p.attachedCount_le _)
      apply List.getElem?_eq_none_iff.mp hf
    | some f =>
      by_cases hattached : index < p.attachedCount
      · simp only [if_pos hattached]
        cases hr : (Feature.handle f input (p.turn m index now)).result with
        | error e =>
          apply stop hC hf hattached
          simp [hr]
        | ok flow =>
          cases flow with
          | stop =>
            apply stop hC hf hattached
            simp [hr]
          | pass =>
            apply dispatchFrom_rule pass stop done
            · rw [features_after, List.length_set]
              omega
            · apply pass hC hf hattached hr
      · simp only [if_neg hattached]
        apply done hC (Nat.le_of_not_lt hattached)

/-- The rule for a whole dispatch. -/
theorem dispatch_rule {C : Nat → Pipeline φ → μ → Prop} {D : Pipeline φ → μ → Prop}
    {p : Pipeline φ} {m : μ} (start : C 0 p m)
    (pass : ∀ {index : Nat} {p : Pipeline φ} {m : μ} {f : φ}, C index p m →
      p.features[index]? = some f → index < p.attachedCount →
      (Feature.handle f input (p.turn m index now)).result = .ok .pass →
      C (index + 1) (p.after index now (Feature.handle f input (p.turn m index now)))
        (Feature.handle f input (p.turn m index now)).turn.model)
    (stop : ∀ {index : Nat} {p : Pipeline φ} {m : μ} {f : φ}, C index p m →
      p.features[index]? = some f → index < p.attachedCount →
      (Feature.handle f input (p.turn m index now)).result ≠ .ok .pass →
      D (p.after index now (Feature.handle f input (p.turn m index now)))
        (Feature.handle f input (p.turn m index now)).turn.model)
    (done : ∀ {index : Nat} {p : Pipeline φ} {m : μ}, C index p m → p.attachedCount ≤ index →
      D p m) :
  D (p.dispatch m now input).pipeline (p.dispatch m now input).model
  := dispatchFrom_rule pass stop done (Nat.le_refl _) start

/-- What every turn keeps is kept by a whole dispatch. -/
theorem dispatch_keeps {M : Pipeline φ → μ → Prop}
    (turn : ∀ {index : Nat} {p : Pipeline φ} {m : μ} {f : φ}, M p m →
      p.features[index]? = some f → index < p.attachedCount →
      M (p.after index now (Feature.handle f input (p.turn m index now)))
        (Feature.handle f input (p.turn m index now)).turn.model)
    {p : Pipeline φ} {m : μ} (h : M p m) :
  M (p.dispatch m now input).pipeline (p.dispatch m now input).model
  := by
  apply dispatch_rule (C := fun _ => M)
  case start => apply h
  case pass =>
    intro index p m f h hf hi _
    apply turn h hf hi
  case stop =>
    intro index p m f h hf hi _
    apply turn h hf hi
  case done =>
    intro index p m h _
    apply h

end Dispatch

/-! ### One timer -/

section Fire

variable [Feature φ μ ι] {now : Float} {t : Timer} {p : Pipeline φ} {m : μ} {index : Nat}

/-- A timer of a feature that is not there does nothing. -/
theorem fireOne_of_none (htarget : t.target = .feature index) (hf : p.features[index]? = none) :
  fireOne ι now t p m = ⟨.ok (), p, m⟩
  := by
  simp only [fireOne, htarget, hf]

theorem fireOne_of_some {f : φ} (htarget : t.target = .feature index)
    (hf : p.features[index]? = some f) :
  fireOne ι now t p m
    = ⟨(Feature.fire ι f t.token (p.turn m index now)).result,
        p.after index now (Feature.fire ι f t.token (p.turn m index now)),
        (Feature.fire ι f t.token (p.turn m index now)).turn.model⟩
  := by
  simp only [fireOne, htarget, hf]

/-- A reattachment that does not count, because a later one was set or the features were cut off
again, does nothing. -/
theorem fireOne_of_stale (htarget : t.target = .reattach)
    (htoken : p.reattachToken ≠ some t.token) :
  fireOne ι now t p m = ⟨.ok (), p, m⟩
  := by
  simp only [fireOne, htarget, if_neg htoken]

/-- A timer does nothing, puts the pipeline together again, or is given to a feature. -/
theorem fireOne_cases (ι : Type) [Feature φ μ ι] (now : Float) (t : Timer) (p : Pipeline φ)
    (m : μ) :
  fireOne ι now t p m = ⟨.ok (), p, m⟩
    ∨ (t.target = .reattach ∧ p.reattachToken = some t.token
      ∧ fireOne ι now t p m = ⟨.ok (), { p with detachedAt := none, reattachToken := none }, m⟩)
    ∨ ∃ index f, t.target = .feature index ∧ p.features[index]? = some f
      ∧ fireOne ι now t p m
        = ⟨(Feature.fire ι f t.token (p.turn m index now)).result,
            p.after index now (Feature.fire ι f t.token (p.turn m index now)),
            (Feature.fire ι f t.token (p.turn m index now)).turn.model⟩
  := by
  cases htarget : t.target with
  | reattach =>
    by_cases htoken : p.reattachToken = some t.token
    · refine Or.inr (Or.inl ⟨rfl, htoken, ?_⟩)
      simp only [fireOne, htarget, if_pos htoken]
    · apply Or.inl (fireOne_of_stale htarget htoken)
  | feature index =>
    cases hf : p.features[index]? with
    | none => apply Or.inl (fireOne_of_none htarget hf)
    | some f => exact Or.inr (Or.inr ⟨index, f, rfl, hf, fireOne_of_some htarget hf⟩)

/-- What every timer of a list keeps is kept when they go off one after the other. -/
theorem fireAll_rule {M : Pipeline φ → μ → Prop} :
  ∀ {due : List Timer} {p : Pipeline φ} {m : μ},
    (∀ t ∈ due, ∀ {p : Pipeline φ} {m : μ}, M p m →
      M (fireOne ι now t p m).pipeline (fireOne ι now t p m).model) →
    M p m → M (fireAll ι now due p m).pipeline (fireAll ι now due p m).model
  | [], _, _, _, h => h
  | t :: rest, p, m, step, h => by
    have ht := step t List.mem_cons_self h
    rw [fireAll]
    cases (fireOne ι now t p m).result with
    | error _ => apply ht
    | ok _ =>
      apply fireAll_rule _ ht
      intro t' ht' p m h
      apply step t' (List.mem_cons_of_mem t ht') h

/-- A rule for timers that go off one after the other.  `M` is about those that are yet to do so,
and `D` holds when all have done so or one has failed. -/
theorem fireAll_rest_rule {M : List Timer → Pipeline φ → μ → Prop} {D : Pipeline φ → μ → Prop}
    (step : ∀ {t : Timer} {rest : List Timer} {p : Pipeline φ} {m : μ}, M (t :: rest) p m →
      (fireOne ι now t p m).result = .ok () →
      M rest (fireOne ι now t p m).pipeline (fireOne ι now t p m).model)
    (fail : ∀ {t : Timer} {rest : List Timer} {p : Pipeline φ} {m : μ} {e : GridError},
      M (t :: rest) p m → (fireOne ι now t p m).result = .error e →
      D (fireOne ι now t p m).pipeline (fireOne ι now t p m).model)
    (done : ∀ {p : Pipeline φ} {m : μ}, M [] p m → D p m) {due : List Timer} {p : Pipeline φ}
    {m : μ} (h : M due p m) :
  D (fireAll ι now due p m).pipeline (fireAll ι now due p m).model
  := by
  induction due generalizing p m with
  | nil => apply done h
  | cons t rest ih =>
    rw [fireAll]
    cases hresult : (fireOne ι now t p m).result with
    | error e => apply fail h hresult
    | ok _ => apply ih (step h hresult)

/-- What is kept when a feature is given a timer, when the pipeline is put together again and when
timers are taken is kept by a whole tick. -/
theorem tick_keeps {M : Pipeline φ → μ → Prop}
    (fire : ∀ {index : Nat} {p : Pipeline φ} {m : μ} {f : φ} (token : TimerToken), M p m →
      p.features[index]? = some f →
      M (p.after index now (Feature.fire ι f token (p.turn m index now)))
        (Feature.fire ι f token (p.turn m index now)).turn.model)
    (reattach : ∀ {p : Pipeline φ} {m : μ}, M p m →
      M { p with detachedAt := none, reattachToken := none } m)
    (takeDue : ∀ {p : Pipeline φ} {m : μ}, M p m →
      M { p with timers := (p.timers.takeDue now).2 } m)
    {p : Pipeline φ} {m : μ} (h : M p m) :
  M (tick ι p m now).pipeline (tick ι p m now).model
  := by
  apply fireAll_rule _ (takeDue h)
  intro t _ p m h
  obtain hone | ⟨-, -, hone⟩ | ⟨index, f, -, hf, hone⟩ := fireOne_cases ι now t p m
  · rw [hone]
    apply h
  · rw [hone]
    apply reattach h
  · rw [hone]
    apply fire t.token h hf

end Fire

/-! ### What every turn keeps -/

/-- `M` is kept by every turn of a feature, when timers are taken and when the pipeline is put
together again. -/
structure Keeps (ι : Type) [Feature φ μ ι] (M : Pipeline φ → μ → Prop) : Prop where
  handle {p : Pipeline φ} {m : μ} {index : Nat} {f : φ} (input : ι) (now : Float) :
    M p m → p.features[index]? = some f →
    M (p.after index now (Feature.handle f input (p.turn m index now)))
      (Feature.handle f input (p.turn m index now)).turn.model
  fire {p : Pipeline φ} {m : μ} {index : Nat} {f : φ} (token : TimerToken) (now : Float) :
    M p m → p.features[index]? = some f →
    M (p.after index now (Feature.fire ι f token (p.turn m index now)))
      (Feature.fire ι f token (p.turn m index now)).turn.model
  reattach {p : Pipeline φ} {m : μ} :
    M p m → M { p with detachedAt := none, reattachToken := none } m
  takeDue {p : Pipeline φ} {m : μ} (now : Float) :
    M p m → M { p with timers := (p.timers.takeDue now).2 } m

section Keeps

variable [Feature φ μ ι] {M : Pipeline φ → μ → Prop}

theorem Keeps.dispatch (hM : Keeps ι M) {p : Pipeline φ} {m : μ} (h : M p m) (now : Float)
    (input : ι) :
  M (p.dispatch m now input).pipeline (p.dispatch m now input).model
  := by
  apply dispatch_keeps _ h
  intro index p m f h hf _
  apply hM.handle input now h hf

theorem Keeps.tick (hM : Keeps ι M) {p : Pipeline φ} {m : μ} (h : M p m) (now : Float) :
  M (tick ι p m now).pipeline (tick ι p m now).model
  := by
  apply tick_keeps _ hM.reattach (hM.takeDue now) h
  intro index p m f token h hf
  apply hM.fire token now h hf

end Keeps

end Pipeline

end DataGrid
