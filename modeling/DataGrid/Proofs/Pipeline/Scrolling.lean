import DataGrid.Proofs.Feature.Scrolling
import DataGrid.Proofs.Pipeline.Ticks

/-!
# Timers that are waited for

A feature that waits for a timer has set it, and it has not gone off: in every pipeline that comes
of inputs and ticks, just one timer has the number that the feature waits for
(`Pipeline.AwaitsTimers.pending_eq`), and the timers of features that nobody waits for do nothing
(`Pipeline.AwaitsTimers.fireOne_eq`).
-/

namespace DataGrid

variable {α σ : Type}

namespace Timers

/-- Of some timers that have been taken and those that wait, each has a number of its own that has
been given out. -/
structure AreApart (taken : List Timer) (ts : Timers) : Prop where
  nodup : ((taken ++ ts.pending).map (·.token)).Nodup
  numbered : ∀ t ∈ taken ++ ts.pending, t.token < ts.next

theorem AreApart.schedule {taken : List Timer} {ts : Timers} (h : ts.AreApart taken)
    (target : TimerTarget) (due : Float) :
  (ts.schedule target due).2.AreApart taken
  := by
  constructor
  case nodup =>
    change ((taken ++ (ts.pending ++ [(⟨due, target, ts.next⟩ : Timer)])).map (·.token)).Nodup
    rw [← List.append_assoc, List.map_append, List.nodup_append]
    refine ⟨h.nodup, List.nodup_singleton _, ?_⟩
    intro token htoken token' htoken'
    obtain ⟨t, ht, rfl⟩ := List.mem_map.mp htoken
    obtain rfl := List.mem_singleton.mp htoken'
    apply Nat.ne_of_lt (h.numbered t ht)
  case numbered =>
    intro t ht
    rw [Timers.schedule, ← List.append_assoc] at ht
    obtain ht | ht := List.mem_append.mp ht
    · apply Nat.lt_succ_of_lt (h.numbered t ht)
    · obtain rfl := List.mem_singleton.mp ht
      apply Nat.lt_succ_self

/-- One timer less has been taken. -/
theorem AreApart.tail {t : Timer} {rest : List Timer} {ts : Timers} (h : ts.AreApart (t :: rest)) :
  ts.AreApart rest
  := ⟨(List.nodup_cons.mp h.nodup).2, fun s hs => h.numbered s (List.mem_cons_of_mem t hs)⟩

/-- The timers that are taken and those that are left are all that have waited. -/
theorem perm_append_takeDue (ts : Timers) (now : Float) :
  ((ts.takeDue now).1 ++ (ts.takeDue now).2.pending).Perm ts.pending
  := by
  apply ((ts.perm_takeDue now).append_right _).trans
  rw [takeDue]
  dsimp only
  apply List.filter_append_perm fun t : Timer => decide (t.due ≤ now)

theorem AreApart.takeDue {ts : Timers} (h : ts.AreApart []) (now : Float) :
  (ts.takeDue now).2.AreApart (ts.takeDue now).1
  := by
  have hperm := ts.perm_append_takeDue now
  constructor
  case nodup => apply (hperm.map _).nodup_iff.mpr h.nodup
  case numbered =>
    intro t ht
    apply h.numbered t (hperm.mem_iff.mp ht)

/-- Where each timer has a number of its own, one timer has the number of one of them. -/
theorem filter_token_eq {timers : List Timer} (h : (timers.map (·.token)).Nodup) {t : Timer}
    (ht : t ∈ timers) :
  timers.filter (fun s => s.token = t.token) = [t]
  := by
  induction timers with
  | nil => cases ht
  | cons s rest ih =>
    obtain ⟨hs, hrest⟩ := List.nodup_cons.mp h
    obtain rfl | ht := List.mem_cons.mp ht
    · have hothers : rest.filter (fun s => s.token = t.token) = [] := by
        apply List.filter_eq_nil_iff.mpr
        intro s hmem htoken
        apply hs
        exact List.mem_map.mpr ⟨s, hmem, of_decide_eq_true htoken⟩
      rw [List.filter_cons, if_pos (decide_eq_true rfl), hothers]
    · have hother : s.token ≠ t.token := fun htoken =>
        hs (List.mem_map.mpr ⟨t, ht, htoken.symm⟩)
      rw [List.filter_cons, if_neg (Bool.not_eq_true _ ▸ decide_eq_false hother), ih hrest ht]

end Timers

namespace Pipeline

/-- While some timers that have been taken are yet to go off, each timer that a feature waits for is
one of them or waits. -/
structure AwaitsTimers (taken : List Timer) (p : Pipeline (BuiltIn α)) : Prop where
  sound : ∀ {i : Nat} {f : BuiltIn α}, p.features[i]? = some f → f.ScrollsInDrag
  awaited : ∀ {i : Nat} {f : BuiltIn α} {d : DragScroll}, p.features[i]? = some f →
    f.scrolling? = some d → ∃ due, ⟨due, .feature i, d.timer⟩ ∈ taken ++ p.timers.pending
  apart : p.timers.AreApart taken

/-- Timers of the features of this library never fail. -/
theorem result_fireOne [Pixel α] [DataSource σ] (now : Float) (t : Timer) (p : Pipeline (BuiltIn α)) (m : Model α σ) :
  (fireOne (Input α) now t p m).result = .ok ()
  := by
  obtain hone | ⟨-, -, hone⟩ | ⟨i, f, -, -, hone⟩ := fireOne_cases (Input α) now t p m
  · rw [hone]
  · rw [hone]
  · rw [hone]
    apply f.result_fire

/-- No timer is set, or one for a reattachment. -/
theorem timers_grant_cases {φ : Type} (p : Pipeline φ) (r : ChainRequest) (index : Nat)
    (now : Float) :
  (p.grant r index now).timers = p.timers
    ∨ ∃ due, (p.grant r index now).timers = (p.timers.schedule .reattach due).2
  := by
  rw [grant]
  dsimp only
  cases r.reattachAfter with
  | none => cases r.detach <;> cases r.reattachNow <;> exact .inl rfl
  | some delay => cases r.detach <;> cases r.reattachNow <;> exact .inr ⟨now + delay, rfl⟩

namespace AwaitsTimers

variable {p : Pipeline (BuiltIn α)} {m : Model α σ} {i : Nat} {f : BuiltIn α} {now : Float}
  {taken rest : List Timer} {t : Timer} {d : DragScroll}

/-! ### One turn -/

/-- A timer more does not matter. -/
theorem schedule (h : p.AwaitsTimers taken) (target : TimerTarget) (due : Float) :
  { p with timers := (p.timers.schedule target due).2 }.AwaitsTimers taken
  := by
  constructor
  case sound =>
    intro i f hf
    apply h.sound hf
  case awaited =>
    intro i f d hf hd
    obtain ⟨due', hmem⟩ := h.awaited hf hd
    refine ⟨due', ?_⟩
    change _ ∈ taken ++ (p.timers.pending ++ _)
    rw [← List.append_assoc]
    apply List.mem_append_left _ hmem
  case apart => apply h.apart.schedule

/-- Only features and timers matter. -/
theorem congr {p' : Pipeline (BuiltIn α)} (h : p.AwaitsTimers taken)
    (hfeatures : p'.features = p.features) (htimers : p'.timers = p.timers) :
  p'.AwaitsTimers taken
  := by
  constructor
  case sound =>
    intro i f hf
    rw [hfeatures] at hf
    apply h.sound hf
  case awaited =>
    intro i f d hf hd
    rw [hfeatures] at hf
    rw [htimers]
    apply h.awaited hf hd
  case apart =>
    rw [htimers]
    apply h.apart

theorem grant (h : p.AwaitsTimers taken) (r : ChainRequest) (index : Nat) (now : Float) :
  (p.grant r index now).AwaitsTimers taken
  := by
  obtain hsame | ⟨due, hset⟩ := p.timers_grant_cases r index now
  · apply h.congr (p.features_grant r index now) hsame
  · apply (h.schedule .reattach due).congr (p.features_grant r index now) hset

/-- The feature that has a turn waits for the same timer as before, for none, or for one that it has
set. -/
theorem after {β : Type} {r : Reply β (BuiltIn α) (Model α σ)} (h : p.AwaitsTimers taken)
    (hf : p.features[i]? = some f)
    (hwaits : (p.turn m i now).Waits r.turn f.scrolling? r.feature.scrolling?)
    (hsound : r.feature.ScrollsInDrag) :
  (p.after i now r).AwaitsTimers taken
  := by
  apply grant
  constructor
  case sound =>
    intro j g hg
    obtain ⟨-, rfl⟩ | ⟨-, hold⟩ := getElem?_set_cases hg
    · apply hsound
    · apply h.sound hold
  case awaited =>
    intro j g d hg hd
    cases hwaits with
    | keeps awaited timers =>
      rw [timers]
      obtain ⟨rfl, rfl⟩ | ⟨-, hold⟩ := getElem?_set_cases hg
      · rw [hd] at awaited
        obtain hsame | hnone := awaited
        · apply h.awaited hf hsame.symm
        · cases hnone
      · apply h.awaited hold hd
    | sets columns rows due awaited timers =>
      rw [timers]
      obtain ⟨rfl, rfl⟩ | ⟨-, hold⟩ := getElem?_set_cases hg
      · obtain rfl := Option.some.inj (hd.symm.trans awaited)
        exact ⟨due, List.mem_append_right _ (List.mem_append_right _ List.mem_cons_self)⟩
      · apply (h.schedule _ due).awaited hold hd
  case apart =>
    cases hwaits with
    | keeps awaited timers =>
      rw [timers]
      apply h.apart
    | sets columns rows due awaited timers =>
      rw [timers]
      apply h.apart.schedule

/-- A timer that nobody waits for need not go off. -/
theorem tail (h : p.AwaitsTimers (t :: rest))
    (hother : ∀ {i : Nat} {f : BuiltIn α} {d : DragScroll}, t.target = .feature i →
      p.features[i]? = some f → f.scrolling? = some d → d.timer ≠ t.token) :
  p.AwaitsTimers rest
  := by
  constructor
  case sound =>
    intro i f hf
    apply h.sound hf
  case awaited =>
    intro i f d hf hd
    obtain ⟨due, hmem⟩ := h.awaited hf hd
    obtain rfl | hmem := List.mem_cons.mp hmem
    · cases hother rfl hf hd rfl
    · exact ⟨due, hmem⟩
  case apart => apply h.apart.tail

variable [Pixel α] [DataSource σ]

theorem turn (h : p.AwaitsTimers taken) (hf : p.features[i]? = some f) (m : Model α σ)
    (now : Float) (input : Input α) :
  (p.after i now (f.handle input (p.turn m i now))).AwaitsTimers taken
  := by
  obtain ⟨hwaits, hsound⟩ := BuiltIn.waits_handle (h.sound hf) input (p.turn m i now)
  apply h.after hf hwaits hsound

theorem dispatch (h : p.AwaitsTimers []) (m : Model α σ) (now : Float) (input : Input α) :
  (p.dispatch m now input).pipeline.AwaitsTimers []
  := by
  apply dispatch_keeps (M := fun p _ => p.AwaitsTimers []) _ h
  intro i p m f h hf _
  apply h.turn hf

/-! ### Timers -/

/-- A feature waits no longer for a timer that it has been given. -/
theorem fire (h : p.AwaitsTimers (t :: rest)) (htarget : t.target = .feature i)
    (hf : p.features[i]? = some f) (m : Model α σ) (now : Float) :
  (p.after i now (f.fire t.token (p.turn m i now))).AwaitsTimers rest
  := by
  obtain ⟨hfires, hsound⟩ := BuiltIn.fires_fire (h.sound hf) t.token (p.turn m i now)
  have hnumbered := h.apart.numbered t List.mem_cons_self
  -- what the feature waits for afterwards, and that it is not this timer
  have hwaits : (p.turn m i now).Waits (f.fire t.token (p.turn m i now)).turn f.scrolling?
        (f.fire t.token (p.turn m i now)).feature.scrolling?
      ∧ ∀ d, (f.fire t.token (p.turn m i now)).feature.scrolling? = some d →
        d.timer ≠ t.token := by
    cases hfires with
    | ignores other reply =>
      rw [reply]
      exact ⟨.keeps (.inl rfl) rfl, other⟩
    | ends awaited token after turn =>
      rw [after]
      refine ⟨.keeps (.inr rfl) (by rw [turn]), ?_⟩
      rintro d ⟨⟩
    | steps awaited token step =>
      refine ⟨step.waits _, ?_⟩
      intro d hd
      obtain rfl := Option.some.inj (hd.symm.trans step.awaited)
      apply Nat.ne_of_gt hnumbered
  obtain ⟨hwaits, hother⟩ := hwaits
  apply (h.after hf hwaits hsound).tail
  intro j g d hj hg hd
  obtain rfl : i = j := TimerTarget.feature.inj (htarget.symm.trans hj)
  obtain ⟨hlt, -⟩ := List.getElem?_eq_some_iff.mp hf
  rw [features_after, List.getElem?_set_self hlt] at hg
  obtain rfl := Option.some.inj hg
  apply hother d hd

theorem fireOne (h : p.AwaitsTimers (t :: rest)) (m : Model α σ) (now : Float) :
  (fireOne (Input α) now t p m).pipeline.AwaitsTimers rest
  := by
  cases htarget : t.target with
  | reattach =>
    have hrest : p.AwaitsTimers rest := by
      apply h.tail
      intro i f d hi
      cases htarget.symm.trans hi
    simp only [Pipeline.fireOne, htarget]
    split
    · exact ⟨hrest.sound, hrest.awaited, hrest.apart⟩
    · apply hrest
  | feature i =>
    cases hf : p.features[i]? with
    | none =>
      rw [fireOne_of_none htarget hf]
      apply h.tail
      intro j f d hj hf'
      obtain rfl : i = j := TimerTarget.feature.inj (htarget.symm.trans hj)
      cases hf.symm.trans hf'
    | some f =>
      rw [fireOne_of_some htarget hf]
      apply h.fire htarget hf

omit [Pixel α] in
theorem takeDue (h : p.AwaitsTimers []) (now : Float) :
  { p with timers := (p.timers.takeDue now).2 }.AwaitsTimers (p.timers.takeDue now).1
  := by
  constructor
  case sound =>
    intro i f hf
    apply h.sound hf
  case awaited =>
    intro i f d hf hd
    obtain ⟨due, hmem⟩ := h.awaited hf hd
    refine ⟨due, ?_⟩
    apply (p.timers.perm_append_takeDue now).mem_iff.mpr hmem
  case apart => apply h.apart.takeDue

theorem tick (h : p.AwaitsTimers []) (m : Model α σ) (now : Float) :
  (p.tick (Input α) m now).pipeline.AwaitsTimers []
  := by
  apply fireAll_rest_rule (M := fun rest p _ => p.AwaitsTimers rest)
    (D := fun p _ => p.AwaitsTimers [])
  case step =>
    intro t rest p m h _
    apply h.fireOne
  case fail =>
    intro t rest p m e _ hresult
    cases (result_fireOne now t p m).symm.trans hresult
  case done =>
    intro p m h
    apply h
  case h => apply h.takeDue

/-! ### What follows -/

omit [Pixel α] [DataSource σ] in
/-- Just one of the timers that wait has the number of the timer that a feature waits for. -/
theorem pending_eq (h : p.AwaitsTimers []) (hf : p.features[i]? = some f)
    (hd : f.scrolling? = some d) :
  ∃ due, p.timers.pending.filter (fun t => t.token = d.timer) = [⟨due, .feature i, d.timer⟩]
  := by
  obtain ⟨due, hmem⟩ := h.awaited hf hd
  exact ⟨due, Timers.filter_token_eq h.apart.nodup hmem⟩

/-- A timer of a feature does nothing if the feature does not wait for it. -/
theorem fireOne_eq (h : p.AwaitsTimers taken) (htarget : t.target = .feature i)
    (hother : ∀ {f : BuiltIn α} {d : DragScroll}, p.features[i]? = some f →
      f.scrolling? = some d → d.timer ≠ t.token) (m : Model α σ) (now : Float) :
  Pipeline.fireOne (Input α) now t p m = ⟨.ok (), p, m⟩
  := by
  cases hf : p.features[i]? with
  | none => apply fireOne_of_none htarget hf
  | some f =>
    rw [fireOne_of_some htarget hf]
    have hfires := (BuiltIn.fires_fire (h.sound hf) t.token (p.turn m i now)).1
    change (⟨(f.fire t.token (p.turn m i now)).result,
      p.after i now (f.fire t.token (p.turn m i now)),
      (f.fire t.token (p.turn m i now)).turn.model⟩ : Outcome (BuiltIn α) (Model α σ)) = _
    cases hfires with
    | ignores other reply =>
      rw [reply, after_eq_self now hf rfl rfl]
      rfl
    | ends awaited token => cases hother hf awaited token
    | steps awaited token => cases hother hf awaited token

end AwaitsTimers

end Pipeline

end DataGrid
