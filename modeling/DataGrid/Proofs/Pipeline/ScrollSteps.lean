import DataGrid.Proofs.Feature.Names
import DataGrid.Proofs.Model.Scrolling
import DataGrid.Proofs.Pipeline.Gestures
import DataGrid.Proofs.Pipeline.Scrolling

/-!
# Steps of scrolling

While one feature scrolls in its drag and no other one drags, its timers make no more steps than
there is room for, and no timer is set but by a step (`Pipeline.ScrollsAlone.tick`).
-/

namespace DataGrid

variable {α σ : Type}

namespace Pipeline

/-- The scrolling that goes on in the drag of the feature at an index. -/
def scrollingAt? (p : Pipeline (BuiltIn α)) (index : Nat) : Option DragScroll :=
  p.features[index]?.bind BuiltIn.scrolling?

theorem scrollingAt?_of_getElem? {p : Pipeline (BuiltIn α)} {index : Nat} {f : BuiltIn α}
    (hf : p.features[index]? = some f) :
  p.scrollingAt? index = f.scrolling?
  := by
  rw [scrollingAt?, hf]
  rfl

theorem scrollingAt?_after {β : Type} {p : Pipeline (BuiltIn α)} {i : Nat} {f : BuiltIn α}
    (hf : p.features[i]? = some f) (now : Float) (r : Reply β (BuiltIn α) (Model α σ)) :
  (p.after i now r).scrollingAt? i = r.feature.scrolling?
    ∧ ∀ j, j ≠ i → (p.after i now r).scrollingAt? j = p.scrollingAt? j
  := by
  obtain ⟨hlt, -⟩ := List.getElem?_eq_some_iff.mp hf
  constructor
  · rw [scrollingAt?, features_after, List.getElem?_set_self hlt]
    rfl
  · intro j hj
    rw [scrollingAt?, features_after, List.getElem?_set_ne (Ne.symm hj), scrollingAt?]

variable [Pixel α] [DataSource σ]

/-- How many steps there is room for in the scrolling of the feature at an index. -/
def stepsLeft (p : Pipeline (BuiltIn α)) (m : Model α σ) (index : Nat) : Nat :=
  match p.scrollingAt? index with
  | none => 0
  | some d => m.room d.columns d.rows

/-- A timer of the feature at an index goes off, and the grid is scrolled. -/
def Firing.isStep (index : Nat) (now : Float) (x : Firing (BuiltIn α) (Model α σ)) : Bool :=
  x.timer.target = .feature index
    && x.model.viewport.scrolledApart (x.outcome (Input α) now).model.viewport

/-- How many of some timers that go off make a step of the feature at an index. -/
def countSteps (index : Nat) (now : Float) (xs : List (Firing (BuiltIn α) (Model α σ))) : Nat :=
  xs.countP (·.isStep index now)

/-- The default features scroll in drags, at most one of them drags, and the layout is the one that
belongs to the model. -/
structure ScrollsAlone (p : Pipeline (BuiltIn α)) (m : Model α σ) : Prop where
  names : p.features.map BuiltIn.name = defaultFeatures
  sound : ∀ {i : Nat} {f : BuiltIn α}, p.features[i]? = some f → f.ScrollsInDrag
  exclusive : p.IsExclusive
  coherent : m.IsCoherent

/-- What may come of a timer: the grid is scrolled and another timer set, or it is neither. -/
inductive Rings (t : Timer) (p : Pipeline (BuiltIn α)) (m : Model α σ) (p' : Pipeline (BuiltIn α))
    (m' : Model α σ) : Prop where
  | quiet (model : m' = m) (next : p'.timers.next = p.timers.next)
    (scrolling : ∀ j, p'.scrollingAt? j = p.scrollingAt? j ∨ p'.scrollingAt? j = none)
  | step {i : Nat} {d : DragScroll} {m'' : Model α σ} (target : t.target = .feature i)
    (before : p.scrollingAt? i = some d)
    (after : p'.scrollingAt? i = some { d with timer := p.timers.next })
    (others : ∀ j, j ≠ i → p'.scrollingAt? j = p.scrollingAt? j)
    (scrolled : m.scrollBy? d.columns d.rows = some m'') (frame : m'.toFrame = m''.toFrame)
    (data : m'.data = m''.data) (next : p'.timers.next = p.timers.next + 1)

variable {p p' : Pipeline (BuiltIn α)} {m m' : Model α σ} {i j : Nat} {f : BuiltIn α} {now : Float}
  {t : Timer} {d : DragScroll}

/-! ### One timer -/

theorem rings_fire (hf : p.features[i]? = some f) (hsound : f.ScrollsInDrag)
    (htarget : t.target = .feature i) (m : Model α σ) (now : Float) :
  let r := f.fire t.token (p.turn m i now)
  Rings t p m (p.after i now r) r.turn.model
  := by
  intro r
  obtain ⟨hself, hothers⟩ := scrollingAt?_after hf now r
  have hrequest : r.turn.request = .none := (f.fire_keeps t.token (p.turn m i now)).2.2.2
  have htimers : (p.after i now r).timers = r.turn.timers := by
    rw [after_of_request_none p i now hrequest]
  have hbefore := scrollingAt?_of_getElem? hf
  cases (BuiltIn.fires_fire hsound t.token (p.turn m i now)).1 with
  | ignores other reply =>
    refine .quiet ?_ ?_ fun j => ?_
    · rw [show r = _ from reply]
      rfl
    · rw [htimers, show r = _ from reply]
      rfl
    · by_cases hj : j = i
      · obtain rfl := hj
        rw [hself, hbefore, show r = _ from reply]
        exact .inl rfl
      · exact .inl (hothers j hj)
  | ends awaited token after turn =>
    refine .quiet ?_ ?_ fun j => ?_
    · rw [show r.turn = _ from turn]
      rfl
    · rw [htimers, show r.turn = _ from turn]
      rfl
    · by_cases hj : j = i
      · obtain rfl := hj
        exact .inr (hself.trans after)
      · exact .inl (hothers j hj)
  | steps awaited token step =>
    obtain ⟨m', hscrolled, hframe, hdata⟩ := step.scrolled
    obtain ⟨due, hset⟩ := step.timers
    refine .step htarget (hbefore.trans awaited) (hself.trans step.awaited) hothers hscrolled hframe
      hdata ?_
    rw [htimers, show r.turn.timers = _ from hset]
    rfl

theorem ScrollsAlone.rings (h : p.ScrollsAlone m) (now : Float) (t : Timer) :
  let o := fireOne (Input α) now t p m
  Rings t p m o.pipeline o.model
  := by
  intro o
  obtain hone | ⟨-, -, hone⟩ | ⟨i, f, htarget, hf, hone⟩ := fireOne_cases (Input α) now t p m
  · rw [show o = _ from hone]
    exact .quiet rfl rfl fun _ => .inl rfl
  · rw [show o = _ from hone]
    exact .quiet rfl rfl fun _ => .inl rfl
  · rw [show o = _ from hone]
    apply rings_fire hf (h.sound hf) htarget

theorem ScrollsAlone.fire (h : p.ScrollsAlone m) (hf : p.features[i]? = some f) (now : Float)
    (token : TimerToken) :
  let r := f.fire token (p.turn m i now)
  (p.after i now r).ScrollsAlone r.turn.model
  := by
  intro r
  constructor
  case names => apply (names_after hf (f.name_fire token _)).trans h.names
  case sound =>
    intro j g hg
    rw [features_after] at hg
    obtain ⟨-, rfl⟩ | ⟨-, hold⟩ := getElem?_set_cases hg
    · apply (BuiltIn.fires_fire (h.sound hf) token (p.turn m i now)).2
    · apply h.sound hold
  case exclusive =>
    -- who drags does so before
    have hdragged {j : Nat} {g : BuiltIn α} (hg : (p.after i now r).features[j]? = some g)
        (hdragging : g.isDragging = true) :
        ∃ g', p.features[j]? = some g' ∧ g'.isDragging = true := by
      rw [features_after] at hg
      obtain ⟨rfl, rfl⟩ | ⟨-, hold⟩ := getElem?_set_cases hg
      · exact ⟨f, hf, (f.fire_keeps token (p.turn m j now)).1.symm.trans hdragging⟩
      · exact ⟨g, hold, hdragging⟩
    intro j k g g' hg hg' hdragging hdragging'
    obtain ⟨e, he, hedragging⟩ := hdragged hg hdragging
    obtain ⟨e', he', hedragging'⟩ := hdragged hg' hdragging'
    apply h.exclusive j k e e' he he' hedragging hedragging'
  case coherent => apply (f.advances_fire token (p.turn m i now)).model.isCoherent h.coherent

theorem ScrollsAlone.fireOne (h : p.ScrollsAlone m) (now : Float) (t : Timer) :
  let o := fireOne (Input α) now t p m
  o.pipeline.ScrollsAlone o.model
  := by
  intro o
  obtain hone | ⟨-, -, hone⟩ | ⟨i, f, htarget, hf, hone⟩ := fireOne_cases (Input α) now t p m
  · rw [show o = _ from hone]
    apply h
  · rw [show o = _ from hone]
    exact ⟨h.names, h.sound, h.exclusive, h.coherent⟩
  · rw [show o = _ from hone]
    apply h.fire hf

/-- Nothing else scrolls while one feature does so. -/
theorem ScrollsAlone.scrollingAt?_eq_none (h : p.ScrollsAlone m) (hi : p.scrollingAt? i = some d)
    (hj : j ≠ i) :
  p.scrollingAt? j = none
  := by
  cases hd' : p.scrollingAt? j with
  | none => rfl
  | some d' =>
    obtain ⟨f, hf, hd⟩ := Option.bind_eq_some_iff.mp hi
    obtain ⟨g, hg, hd'⟩ := Option.bind_eq_some_iff.mp hd'
    have hf' := BuiltIn.isDragging_of_scrolling? (h.sound hf) hd
    have hg' := BuiltIn.isDragging_of_scrolling? (h.sound hg) hd'
    cases hj (h.exclusive j i g f hg hf hg' hf')

/-- Only the features that move columns and that select cells scroll. -/
theorem ScrollsAlone.index_eq (h : p.ScrollsAlone m) (hi : p.scrollingAt? i = some d) :
  i = movingIndex ∨ i = cellsIndex
  := by
  obtain ⟨f, hf, hd⟩ := Option.bind_eq_some_iff.mp hi
  have hname := getElem?_name h.names hf
  obtain ⟨hlt, -⟩ := List.getElem?_eq_some_iff.mp hname
  obtain hmoving | hcells := BuiltIn.name_of_scrolling? hd
  · left
    apply (List.getElem?_inj hlt (by decide)).mp
    rw [hname, hmoving]
    rfl
  · right
    apply (List.getElem?_inj hlt (by decide)).mp
    rw [hname, hcells]
    rfl

/-- A timer uses up the steps that it makes. -/
theorem ScrollsAlone.stepsLeft_fireOne (h : p.ScrollsAlone m) (now : Float) (t : Timer)
    (index : Nat) :
  let o := Pipeline.fireOne (Input α) now t p m
  (if (⟨t, p, m⟩ : Firing (BuiltIn α) (Model α σ)).isStep index now then 1 else 0)
      + o.pipeline.stepsLeft o.model index
    ≤ p.stepsLeft m index
  := by
  intro o
  have hisStep : (⟨t, p, m⟩ : Firing (BuiltIn α) (Model α σ)).isStep index now
      = (decide (t.target = .feature index) && m.viewport.scrolledApart o.model.viewport) := rfl
  rw [hisStep]
  cases h.rings now t with
  | quiet model next scrolling =>
    rw [show o.model = m from model, Viewport.scrolledApart_self, Bool.and_false, if_neg Bool.false_ne_true,
      Nat.zero_add, stepsLeft, stepsLeft]
    obtain hsame | hnone := scrolling index
    · apply Nat.le_of_eq
      rw [show o.pipeline.scrollingAt? index = _ from hsame]
    · rw [show o.pipeline.scrollingAt? index = _ from hnone]
      apply Nat.zero_le
  | @step i d m' target before after others scrolled frame data next =>
    by_cases hi : index = i
    · obtain rfl := hi
      have hroom := Model.room_lt_of_scrollBy? h.coherent scrolled
      rw [stepsLeft, stepsLeft, before, show o.pipeline.scrollingAt? index = _ from after]
      dsimp only
      rw [show o.model.room d.columns d.rows = _ from Model.room_congr frame data]
      split
      · omega
      · omega
    · have hnone := h.scrollingAt?_eq_none before hi
      rw [stepsLeft, show o.pipeline.scrollingAt? index = _ from (others index hi).trans hnone]
      have htarget : t.target ≠ .feature index := fun htarget =>
        hi (TimerTarget.feature.inj (htarget.symm.trans target))
      rw [decide_eq_false htarget, Bool.false_and, if_neg Bool.false_ne_true]
      apply Nat.zero_le

/-- Timers are set by steps and by nothing else. -/
theorem ScrollsAlone.next_fireOne (h : p.ScrollsAlone m) (now : Float) (t : Timer) :
  let x : Firing (BuiltIn α) (Model α σ) := ⟨t, p, m⟩
  (Pipeline.fireOne (Input α) now t p m).pipeline.timers.next
    = p.timers.next + (if x.isStep movingIndex now then 1 else 0)
      + (if x.isStep cellsIndex now then 1 else 0)
  := by
  intro x
  have hisStep (index : Nat) : x.isStep index now
      = (decide (t.target = .feature index) && m.viewport.scrolledApart
        (Pipeline.fireOne (Input α) now t p m).model.viewport) := rfl
  rw [hisStep, hisStep]
  cases h.rings now t with
  | quiet model next scrolling =>
    rw [model, next, Viewport.scrolledApart_self, Bool.and_false, Bool.and_false,
      if_neg Bool.false_ne_true]
    rfl
  | step target before after others scrolled frame data next =>
    have hapart := (Model.viewport_scrollBy? scrolled).2.2.2
    rw [next, target, show (Pipeline.fireOne (Input α) now t p m).model.viewport = _ from
      congrArg (fun f => f.viewport) frame, hapart, Bool.and_true, Bool.and_true]
    obtain rfl | rfl := h.index_eq before
    · rw [if_pos (by decide), if_neg (by decide)]
    · rw [if_neg (by decide), if_pos (by decide)]

/-! ### Ticks -/

/-- What timers leave when they go off one after the other. -/
theorem ScrollsAlone.fireAll {due : List Timer} (h : p.ScrollsAlone m) :
  let o := Pipeline.fireAll (Input α) now due p m
  let xs := firings (Input α) now due p m
  o.pipeline.ScrollsAlone o.model
    ∧ (∀ index, countSteps index now xs + o.pipeline.stepsLeft o.model index
      ≤ p.stepsLeft m index)
    ∧ o.pipeline.timers.next
      = p.timers.next + countSteps movingIndex now xs + countSteps cellsIndex now xs
  := by
  induction due generalizing p m with
  | nil => exact ⟨h, fun index => Nat.le_of_eq (Nat.zero_add _), rfl⟩
  | cons t rest ih =>
    intro o xs
    have hone := result_fireOne now t p m
    obtain ⟨hrest, hleft, hnext⟩ := ih (h.fireOne now t)
    have hsteps (index : Nat) : countSteps index now xs
        = countSteps index now (firings (Input α) now rest
            (Pipeline.fireOne (Input α) now t p m).pipeline
            (Pipeline.fireOne (Input α) now t p m).model)
          + if (⟨t, p, m⟩ : Firing (BuiltIn α) (Model α σ)).isStep index now then 1 else 0 := by
      rw [countSteps, countSteps, ← List.countP_cons, ← firings_of_ok hone]
    rw [show o = _ from fireAll_of_ok hone]
    refine ⟨hrest, ?_, ?_⟩
    · intro index
      have hfirst := h.stepsLeft_fireOne now t index
      have hothers := hleft index
      dsimp only at hfirst
      rw [hsteps]
      omega
    · rw [hnext, h.next_fireOne now t, hsteps, hsteps]
      ac_rfl

theorem ScrollsAlone.tick (h : p.ScrollsAlone m) (now : Float) :
  let o := p.tick (Input α) m now
  let xs := p.fired (Input α) m now
  o.pipeline.ScrollsAlone o.model
    ∧ (∀ index, countSteps index now xs + o.pipeline.stepsLeft o.model index
      ≤ p.stepsLeft m index)
    ∧ o.pipeline.timers.next
      = p.timers.next + countSteps movingIndex now xs + countSteps cellsIndex now xs
  := by
  have htaken : { p with timers := (p.timers.takeDue now).2 }.ScrollsAlone m :=
    ⟨h.names, h.sound, h.exclusive, h.coherent⟩
  apply htaken.fireAll

end Pipeline

end DataGrid
