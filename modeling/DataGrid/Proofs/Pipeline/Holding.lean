import DataGrid.Proofs.Feature.Advance
import DataGrid.Proofs.Feature.ColumnDrag
import DataGrid.Proofs.Feature.Rest
import DataGrid.Proofs.Pipeline.Rules

/-!
# Pipelines that hold columns

Once a press has taken hold of columns, one feature moves them and all others are at rest
(`Pipeline.Holds`).  Drags and timers keep it so, and a release lets go of the columns; what happens
to the grid meanwhile is what that one feature does.
-/

namespace DataGrid

variable {α σ : Type} [Pixel α] [DataSource σ]

namespace Pipeline

omit [Pixel α] in
/-- The columns that are held. -/
def columnDrag? (p : Pipeline (BuiltIn α)) : Option (ColumnDrag α) :=
  p.features.findSome? BuiltIn.columnDrag?

/-- The feature at an index moves columns and has cut off those after it, and all others are at
rest. -/
structure Holds (p : Pipeline (BuiltIn α)) (index : Nat) (s : ColumnMoving α) : Prop where
  moving : p.features[index]? = some (.columnMoving s)
  rest : ∀ {i : Nat} {f : BuiltIn α}, p.features[i]? = some f → i ≠ index → f.IsAtRest
  reaching : ∀ {i : Nat} {f : BuiltIn α}, p.features[i]? = some f → i < index →
    f.isExtending = false
  detachedAt_eq : p.detachedAt = some index
  reattachToken_eq : p.reattachToken = none
  numbered : p.timers.IsNumbered

namespace Holds

variable {p : Pipeline (BuiltIn α)} {k : Nat} {s : ColumnMoving α} {d : ColumnDrag α}
  {m : Model α σ} {now : Float}

omit [Pixel α] in
theorem columnDrag?_eq (h : p.Holds k s) (hd : s.drag? = some d) :
  p.columnDrag? = some d
  := by
  obtain ⟨hlt, hmoving⟩ := List.getElem?_eq_some_iff.mp h.moving
  apply List.findSome?_eq_some_iff.mpr
  refine ⟨p.features.take k, .columnMoving s, p.features.drop (k + 1), ?_, hd, ?_⟩
  · rw [← hmoving, List.getElem_cons_drop, List.take_append_drop]
  · intro f hf
    obtain ⟨i, hi, rfl⟩ := List.mem_take_iff_getElem.mp hf
    have hik : i ≠ k := by omega
    apply (h.rest (List.getElem?_eq_getElem (by omega)) hik).columnDrag?_eq

omit [Pixel α] in
theorem attachedCount_eq (h : p.Holds k s) :
  p.attachedCount = k + 1
  := by
  obtain ⟨hlt, -⟩ := List.getElem?_eq_some_iff.mp h.moving
  rw [attachedCount, h.detachedAt_eq]
  apply Nat.min_eq_left hlt

omit [Pixel α] [DataSource σ] in
/-- The feature that moves the columns may change its own state and set timers. -/
theorem after {β : Type} (h : p.Holds k s) {r : Reply β (BuiltIn α) (Model α σ)}
    {s' : ColumnMoving α} (hfeature : r.feature = .columnMoving s')
    (hrequest : r.turn.request = .none) (htimers : p.timers.Extends k r.turn.timers) :
  (p.after k now r).Holds k s'
  := by
  obtain ⟨hlt, -⟩ := List.getElem?_eq_some_iff.mp h.moving
  rw [after_of_request_none p k now hrequest, hfeature]
  constructor
  case moving => apply List.getElem?_set_self hlt
  case rest =>
    intro i f hf hi
    obtain ⟨rfl, -⟩ | ⟨-, hold⟩ := getElem?_set_cases hf
    · cases hi rfl
    · apply h.rest hold hi
  case reaching =>
    intro i f hf hi
    obtain ⟨rfl, -⟩ | ⟨-, hold⟩ := getElem?_set_cases hf
    · cases Nat.lt_irrefl _ hi
    · apply h.reaching hold hi
  case detachedAt_eq => apply h.detachedAt_eq
  case reattachToken_eq => apply h.reattachToken_eq
  case numbered => apply h.numbered.extends htimers

/-- A drag is handed on to the feature that moves the columns. -/
theorem dispatch_drag (h : p.Holds k s) (hd : s.drag? = some d) (m : Model α σ) (now : Float)
    (e : PointerEvent α) :
  ∃ s', (p.dispatch m now (Input.pointer .drag e)).pipeline.Holds k s'
    ∧ ColumnMoving.Moves m s (p.dispatch m now (Input.pointer .drag e)).model s'
  := by
  -- nothing happens before the feature that moves the columns sees the drag
  apply dispatch_rule (C := fun i p' (m' : Model α σ) => p' = p ∧ m' = m ∧ i ≤ k)
    (D := fun p' m' => ∃ s', p'.Holds k s' ∧ ColumnMoving.Moves m s m' s')
  case start => exact ⟨rfl, rfl, Nat.zero_le k⟩
  case pass =>
    rintro i p' m' f ⟨rfl, rfl, hi⟩ hf - hresult
    change (f.handle _ _).result = _ at hresult
    obtain rfl | hlt := Nat.eq_or_lt_of_le hi
    · obtain rfl := Option.some.inj (h.moving.symm.trans hf)
      rw [BuiltIn.handle_drag_of_held hd] at hresult
      cases hresult
    · have hreply := (h.rest hf (Nat.ne_of_lt hlt)).handle_drag (h.reaching hf hlt) e
        (p'.turn m' i now)
      change p'.after i now (f.handle _ _) = p' ∧ (f.handle _ _).turn.model = m' ∧ _
      rw [hreply, after_eq_self now hf rfl rfl]
      exact ⟨rfl, rfl, hlt⟩
  case stop =>
    rintro i p' m' f ⟨rfl, rfl, hi⟩ hf - hresult
    change (f.handle _ _).result ≠ _ at hresult
    obtain rfl | hlt := Nat.eq_or_lt_of_le hi
    · obtain rfl := Option.some.inj (h.moving.symm.trans hf)
      change ∃ s', (p'.after i now (BuiltIn.handle _ _ _)).Holds i s'
        ∧ ColumnMoving.Moves _ _ (BuiltIn.handle _ _ _).turn.model s'
      rw [BuiltIn.handle_drag_of_held hd]
      refine ⟨_, h.after rfl ?_ ?_, .follow hd e (t := p'.turn m' i now) rfl⟩
      · apply ColumnMoving.request_follow
      · apply (ColumnMoving.advances_follow d e (p'.turn m' i now)).timers
    · have hreply := (h.rest hf (Nat.ne_of_lt hlt)).handle_drag (h.reaching hf hlt) e
        (p'.turn m' i now)
      rw [hreply] at hresult
      cases hresult rfl
  case done =>
    rintro i p' m' ⟨rfl, rfl, hi⟩ hcount
    rw [h.attachedCount_eq] at hcount
    omega

/-- A timer does nothing, unless it is the one of the next step of scrolling. -/
theorem fireOne_cases (h : p.Holds k s) (m : Model α σ) (now : Float) (t : Timer) :
  ((fireOne (Input α) now t p m).pipeline = p ∧ (fireOne (Input α) now t p m).model = m)
    ∨ ∃ d a d', s = .dragging d ∧ d.autoscroll = some a ∧ a.timer = t.token
      ∧ (fireOne (Input α) now t p m).pipeline.Holds k (.dragging d')
      ∧ ColumnMoving.Moves m s (fireOne (Input α) now t p m).model (.dragging d')
      ∧ ∀ a', d'.autoscroll = some a' → a'.timer = p.timers.next
  := by
  cases htarget : t.target with
  | reattach =>
    have hstale : p.reattachToken ≠ some t.token := by
      rw [h.reattachToken_eq]
      simp
    rw [fireOne_of_stale htarget hstale]
    apply Or.inl ⟨rfl, rfl⟩
  | feature i =>
    cases hf : p.features[i]? with
    | none =>
      rw [fireOne_of_none htarget hf]
      apply Or.inl ⟨rfl, rfl⟩
    | some f =>
      rw [fireOne_of_some htarget hf]
      change ((p.after i now (f.fire t.token (p.turn m i now))) = p
        ∧ (f.fire t.token (p.turn m i now)).turn.model = m) ∨ _
      by_cases hi : i = k
      · obtain rfl := hi
        obtain rfl := Option.some.inj (h.moving.symm.trans hf)
        obtain hfire | ⟨d, a, rfl, ha, htoken, hfire⟩ :=
          BuiltIn.fire_moving_cases s t.token (p.turn m i now)
        · rw [hfire, after_eq_self now hf rfl rfl]
          apply Or.inl ⟨rfl, rfl⟩
        · have hrequest :=
            ColumnMoving.request_scrollStep d a.direction (a.attempt + 1) (p.turn m i now)
          have hadvances :=
            ColumnMoving.advances_scrollStep d a.direction (a.attempt + 1) (p.turn m i now)
          right
          change ∃ _ _ _, _ ∧ _ ∧ _ ∧ (p.after i now (BuiltIn.fire _ _ _)).Holds i _
            ∧ ColumnMoving.Moves m _ (BuiltIn.fire _ _ _).turn.model _ ∧ _
          rw [hfire]
          refine ⟨d, a, _, rfl, ha, htoken, h.after rfl hrequest hadvances.timers,
            .scroll rfl ha (t := p.turn m i now) rfl, ?_⟩
          intro a' ha'
          apply ColumnMoving.timer_eq_of_scrollStep ha'
      · rw [(h.rest hf hi).fire, after_eq_self now hf rfl rfl]
        apply Or.inl ⟨rfl, rfl⟩

end Holds

/-- What timers that were set before `next` may have made of columns that are held: nothing, or one
step of scrolling. -/
inductive Scrolls (k : Nat) (s : ColumnMoving α) (m : Model α σ) (next : TimerToken)
    (p' : Pipeline (BuiltIn α)) (m' : Model α σ) : Prop where
  | waiting (holds : p'.Holds k s) (model_eq : m' = m) (next_eq : p'.timers.next = next)
  | stepped {d' : ColumnDrag α} (holds : p'.Holds k (.dragging d'))
    (moves : ColumnMoving.Moves m s m' (.dragging d'))
    (late : ∀ a, d'.autoscroll = some a → next ≤ a.timer)

theorem Scrolls.fireOne {p : Pipeline (BuiltIn α)} {k : Nat} {s : ColumnMoving α}
    {m m' : Model α σ} {next : TimerToken} {now : Float} {t : Timer}
    (h : Scrolls k s m next p m') (ht : t.token < next) :
  Scrolls k s m next (fireOne (Input α) now t p m').pipeline (fireOne (Input α) now t p m').model
  := by
  cases h with
  | waiting holds model_eq next_eq =>
    obtain ⟨hp, hm⟩ | ⟨d, a, d', -, -, -, hholds, hmoves, htimer⟩ := holds.fireOne_cases m' now t
    · rw [hp, hm]
      apply waiting holds model_eq next_eq
    · rw [model_eq] at hmoves hholds ⊢
      apply stepped hholds hmoves
      intro a' ha'
      apply Nat.le_of_eq
      rw [htimer a' ha', next_eq]
  | stepped holds moves late =>
    obtain ⟨hp, hm⟩ | ⟨d, a, -, hd, ha, htoken, -⟩ := holds.fireOne_cases m' now t
    · rw [hp, hm]
      apply stepped holds moves late
    · -- the timer of the next step was set after this one
      cases hd
      have hlate := late a ha
      rw [htoken] at hlate
      cases Nat.not_lt_of_le hlate ht

/-- A tick scrolls once at most. -/
theorem Holds.tick {p : Pipeline (BuiltIn α)} {k : Nat} {s : ColumnMoving α} (h : p.Holds k s)
    (m : Model α σ) (now : Float) :
  ∃ s', (tick (Input α) p m now).pipeline.Holds k s'
    ∧ ColumnMoving.Moves m s (tick (Input α) p m now).model s'
  := by
  have hbefore : Holds { p with timers := (p.timers.takeDue now).2 } k s :=
    ⟨h.moving, h.rest, h.reaching, h.detachedAt_eq, h.reattachToken_eq, h.numbered.takeDue now⟩
  have hafter : Scrolls k s m p.timers.next (Pipeline.tick (Input α) p m now).pipeline
      (Pipeline.tick (Input α) p m now).model := by
    apply fireAll_rule _ (Scrolls.waiting hbefore rfl rfl)
    intro t ht p' m' hp'
    apply hp'.fireOne (h.numbered t (Timers.mem_pending_of_mem_takeDue ht))
  cases hafter with
  | waiting holds model_eq next_eq =>
    rw [model_eq]
    exact ⟨s, holds, .rest⟩
  | stepped holds moves late => exact ⟨_, holds, moves⟩

/-! ### Letting go -/

/-- A release lets go of the columns. -/
theorem Holds.dispatch_up {p : Pipeline (BuiltIn α)} {k : Nat} {s : ColumnMoving α}
    {d : ColumnDrag α} (h : p.Holds k s) (hd : s.drag? = some d) (m : Model α σ) (now : Float)
    (e : PointerEvent α) :
  (p.dispatch m now (Input.pointer .up e)).model = ColumnMoving.letGo s m
  := by
  -- the features before the one that moves the columns may take note of the release
  apply dispatch_rule
    (C := fun i p' (m' : Model α σ) => m' = m ∧ i ≤ k
      ∧ ∃ features, p' = { p with features := features }
        ∧ ∀ j, i ≤ j → features[j]? = p.features[j]?)
    (D := fun _ m' => m' = ColumnMoving.letGo s m)
  case start => exact ⟨rfl, Nat.zero_le k, p.features, rfl, fun _ _ => rfl⟩
  case pass =>
    rintro i p' m' f ⟨rfl, hi, features, rfl, hfeatures⟩ hf - hresult
    change features[i]? = some f at hf
    change (f.handle _ _).result = _ at hresult
    obtain rfl | hlt := Nat.eq_or_lt_of_le hi
    · rw [hfeatures i (Nat.le_refl i)] at hf
      obtain rfl := Option.some.inj (h.moving.symm.trans hf)
      rw [(BuiltIn.handle_up_of_held hd e _).1] at hresult
      cases hresult
    · have hrest : f.IsAtRest := by
        rw [hfeatures i (Nat.le_refl i)] at hf
        apply h.rest hf (Nat.ne_of_lt hlt)
      obtain ⟨f', hreply, -⟩ := hrest.handle_up e (turn { p with features := features } m' i now)
      change (f.handle _ _).turn.model = m' ∧ _
        ∧ ∃ features', Pipeline.after _ i now (f.handle _ _) = { p with features := features' } ∧ _
      rw [hreply, after_of_request_none _ i now rfl]
      refine ⟨rfl, hlt, features.set i f', rfl, ?_⟩
      intro j hj
      rw [List.getElem?_set_ne (Nat.ne_of_lt hj)]
      apply hfeatures j (Nat.le_of_lt hj)
  case stop =>
    rintro i p' m' f ⟨rfl, hi, features, rfl, hfeatures⟩ hf - hresult
    change features[i]? = some f at hf
    change (f.handle _ _).result ≠ _ at hresult
    rw [hfeatures i (Nat.le_refl i)] at hf
    obtain rfl | hlt := Nat.eq_or_lt_of_le hi
    · obtain rfl := Option.some.inj (h.moving.symm.trans hf)
      apply (BuiltIn.handle_up_of_held hd e _).2
    · obtain ⟨f', hreply, -⟩ := (h.rest hf (Nat.ne_of_lt hlt)).handle_up e
        (turn { p with features := features } m' i now)
      rw [hreply] at hresult
      cases hresult rfl
  case done =>
    rintro i p' m' ⟨-, hi, features, rfl, hfeatures⟩ hcount
    have hk : features[k]? = some (.columnMoving s) := (hfeatures k hi).trans h.moving
    obtain ⟨hlt, -⟩ := List.getElem?_eq_some_iff.mp hk
    change attachedCount { p with features := features } ≤ i at hcount
    simp only [attachedCount, h.detachedAt_eq] at hcount
    omega

end Pipeline

end DataGrid
