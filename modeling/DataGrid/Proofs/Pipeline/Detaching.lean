import Mathlib
import DataGrid.Proofs.Feature.Advance
import DataGrid.Proofs.Feature.Gesture
import DataGrid.Proofs.Pipeline.Ticks
import DataGrid.Proofs.Pipeline.Visits

/-!
# Cutting off and attaching again

All that happens in a pipeline is that features are offered inputs and that timers go off
(`Pipeline.history`).  Whatever the features do, those behind one that has cut them off see no input
until they are attached again, and that is done at once or by the timer that was asked for last
(`Pipeline.IsChainSafe`).
-/

namespace DataGrid

/-- Features see the timers and the pipeline through their turn alone: they can set timers for
themselves, and when one of these goes off they cut off nobody. -/
structure Feature.IsTame (φ μ ι : Type) [Feature φ μ ι] : Prop where
  handle : ∀ (f : φ) (input : ι) (t : Turn μ),
    t.timers.Extends t.index (Feature.handle f input t).turn.timers
  fire : ∀ (f : φ) (token : TimerToken) (t : Turn μ),
    t.timers.Extends t.index (Feature.fire ι f token t).turn.timers
  detach : ∀ (f : φ) (token : TimerToken) (t : Turn μ), t.request.detach = false →
    (Feature.fire ι f token t).turn.request.detach = false

theorem Timers.Extends.next_le {owner : Nat} {ts ts' : Timers} (h : ts.Extends owner ts') :
  ts.next ≤ ts'.next
  := by
  induction h with
  | refl => apply Nat.le_refl
  | schedule due _ ih => apply Nat.le_succ_of_le ih

theorem ChainRequest.eq_none_iff {r : ChainRequest} :
  r = .none ↔ r.detach = false ∧ r.reattachNow = false ∧ r.reattachAfter = .none
  := by
  cases r
  simp [ChainRequest.none]

namespace Pipeline

variable {φ μ ι : Type}

/-! ### Happenings -/

/-- Why something happens in a pipeline. -/
inductive Cause where
  /-- The feature at an index is offered an input. -/
  | offered (index : Nat)
  | fired (timer : Timer)

/-- One thing that happens in a pipeline. -/
structure Happening (φ : Type) where
  cause : Cause
  before : Pipeline φ
  after : Pipeline φ
  /-- What the feature asks of the pipeline; nothing, if none has a turn. -/
  request : ChainRequest
  /-- The number that the timer for a reattachment gets if one is asked for. -/
  token : TimerToken

namespace Happening

/-- The features behind one are cut off and not attached in the same turn. -/
def CutsOff (x : Happening φ) : Prop := x.request.detach = true ∧ x.request.reattachNow = false

/-- Nothing is asked of the pipeline. -/
def IsIdle (x : Happening φ) : Prop := x.request = .none

/-- A timer is asked for that will attach the features again. -/
def Asks (x : Happening φ) : Prop := x.request.reattachAfter.isSome = true

/-- Features that were cut off are attached. -/
def Reattaches (x : Happening φ) : Prop :=
  x.before.detachedAt.isSome = true ∧ x.after.detachedAt = none

/-- The turn of the feature at an index. -/
def ofTurn {β : Type} (cause : Cause) (p : Pipeline φ) (index : Nat) (now : Float)
    (r : Reply β φ μ) : Happening φ :=
  ⟨cause, p, p.after index now r, r.turn.request, r.turn.timers.next⟩

/-- What one happening can do to the chain of features. -/
structure IsLawful (x : Happening φ) : Prop where
  token_le : x.before.timers.next ≤ x.token
  next_le : x.token ≤ x.after.timers.next
  attached : ∀ {index : Nat}, x.cause = .offered index → index < x.before.attachedCount
  /-- Only a feature that is offered an input cuts off others. -/
  detachedAt : ∀ {i : Nat}, x.after.detachedAt = some i →
    x.before.detachedAt = some i ∨ x.cause = .offered i
  cutsOff : ∀ {index : Nat}, x.cause = .offered index → x.CutsOff →
    x.after.detachedAt = some index
  reattaches : x.Reattaches → x.request.reattachNow = true
    ∨ ∃ t, x.cause = .fired t ∧ t.target = .reattach ∧ x.before.reattachToken = some t.token
  asks : x.Asks → x.after.reattachToken = some x.token ∧ x.token < x.after.timers.next
  /-- Without asking for a timer none is waited for anew, and whatever is asked ends the wait. -/
  waits : ¬ x.Asks → ∀ {token : TimerToken}, x.after.reattachToken = some token →
    x.IsIdle ∧ x.before.reattachToken = some token
  stale : ∀ {t : Timer}, x.cause = .fired t → t.target = .reattach →
    x.before.reattachToken ≠ some t.token → x.after = x.before

end Happening

/-- The pipelines have the same chain of features and have given out the same numbers. -/
structure SameChain (p q : Pipeline φ) : Prop where
  detachedAt_eq : p.detachedAt = q.detachedAt
  reattachToken_eq : p.reattachToken = q.reattachToken
  next_eq : p.timers.next = q.timers.next

theorem SameChain.trans {p q r : Pipeline φ} (h : p.SameChain q) (h' : q.SameChain r) :
  p.SameChain r
  := ⟨h.detachedAt_eq.trans h'.detachedAt_eq, h.reattachToken_eq.trans h'.reattachToken_eq,
    h.next_eq.trans h'.next_eq⟩

/-- One thing happens after the other, and in between timers are taken at most. -/
inductive Leads : Pipeline φ → List (Happening φ) → Pipeline φ → Prop where
  | done {p q : Pipeline φ} : p.SameChain q → Leads p [] q
  | step {p q : Pipeline φ} {x : Happening φ} {rest : List (Happening φ)} :
    p.SameChain x.before → x.IsLawful → Leads x.after rest q → Leads p (x :: rest) q

namespace Leads

variable {p q r : Pipeline φ} {hs hs' : List (Happening φ)} {x : Happening φ} {n : Nat}

theorem of_sameChain (hsame : p.SameChain q) (h : Leads q hs r) :
  Leads p hs r
  := by
  cases h with
  | done hlast => exact .done (hsame.trans hlast)
  | step hfirst hx hrest => exact .step (hsame.trans hfirst) hx hrest

theorem append (h : Leads p hs q) (h' : Leads q hs' r) :
  Leads p (hs ++ hs') r
  := by
  induction h with
  | done hlast => apply of_sameChain hlast h'
  | step hfirst hx _ ih => exact .step hfirst hx (ih h')

/-- What leads to one of the happenings, and what it leads to. -/
theorem split (h : Leads p hs q) (hx : hs[n]? = some x) :
  Leads p (hs.take n) x.before ∧ x.IsLawful ∧ Leads x.after (hs.drop (n + 1)) q
  := by
  induction h generalizing n with
  | done _ => cases hx
  | step hfirst hlawful hrest ih =>
    cases n with
    | zero =>
      obtain rfl := Option.some.inj hx
      exact ⟨.done hfirst, hlawful, hrest⟩
    | succ n =>
      obtain ⟨hbefore, hx, hbehind⟩ := ih hx
      exact ⟨.step hfirst hlawful hbefore, hx, hbehind⟩

/-- What every happening keeps is kept by all of them. -/
theorem keeps (h : Leads p hs q) {M : Pipeline φ → Prop}
    (same : ∀ {p q : Pipeline φ}, p.SameChain q → M p → M q)
    (step : ∀ {x : Happening φ}, x ∈ hs → x.IsLawful → M x.before → M x.after) (hp : M p) :
  M q
  := by
  induction h with
  | done hlast => apply same hlast hp
  | step hfirst hx _ ih =>
    apply ih
    · intro y hy
      apply step (List.mem_cons_of_mem _ hy)
    · apply step List.mem_cons_self hx (same hfirst hp)

theorem next_le (h : Leads p hs q) :
  p.timers.next ≤ q.timers.next
  := by
  apply h.keeps (M := fun q => p.timers.next ≤ q.timers.next) _ _ (Nat.le_refl _)
  · intro q r hsame hle
    rw [← hsame.next_eq]
    apply hle
  · intro x _ hx hle
    apply Nat.le_trans hle (Nat.le_trans hx.token_le hx.next_le)

/-- What leads from one happening to a later one. -/
theorem between (h : Leads p hs q) {a b : Nat} {y : Happening φ} (hab : a < b)
    (hx : hs[a]? = some x) (hy : hs[b]? = some y) :
  x.IsLawful ∧ y.IsLawful ∧ Leads x.after ((hs.drop (a + 1)).take (b - (a + 1))) y.before
  := by
  obtain ⟨-, hlawful, hbehind⟩ := h.split hx
  have hy' : (hs.drop (a + 1))[b - (a + 1)]? = some y := by
    rw [List.getElem?_drop, Nat.add_sub_cancel' hab]
    apply hy
  obtain ⟨hbetween, hlawful', -⟩ := hbehind.split hy'
  exact ⟨hlawful, hlawful', hbetween⟩

omit p q r x n in
theorem exists_of_mem_between {a b : Nat} {z : Happening φ}
    (hz : z ∈ (hs.drop (a + 1)).take (b - (a + 1))) :
  ∃ c, a < c ∧ c < b ∧ hs[c]? = some z
  := by
  obtain ⟨n, hn⟩ := List.mem_iff_getElem?.mp hz
  rw [List.getElem?_take] at hn
  split at hn
  · rw [List.getElem?_drop] at hn
    exact ⟨a + 1 + n, by omega, by omega, hn⟩
  · cases hn

/-! ### What the token says -/

/-- The timer that is waited for was waited for before, and nothing has been asked since, or it is
the one that was asked for last. -/
theorem awaited (h : Leads p hs q) {token : TimerToken} (htoken : q.reattachToken = some token) :
  (p.reattachToken = some token ∧ ∀ y ∈ hs, y.IsIdle)
    ∨ ∃ (a : Nat) (x : Happening φ), hs[a]? = some x ∧ x.Asks ∧ x.token = token
      ∧ ∀ (b : Nat) (y : Happening φ), a < b → hs[b]? = some y → y.IsIdle
  := by
  induction h with
  | done hlast =>
    refine .inl ⟨hlast.reattachToken_eq.trans htoken, ?_⟩
    rintro y ⟨⟩
  | @step p q x rest hfirst hx _ ih =>
    obtain ⟨hbefore, hidle⟩ | ⟨a, y, hy, hasks, rfl, hidle⟩ := ih htoken
    · by_cases hasks : x.Asks
      · refine .inr ⟨0, x, rfl, hasks, ?_, ?_⟩
        · apply Option.some.inj ((hx.asks hasks).1.symm.trans hbefore)
        · intro b y hb hy
          obtain ⟨b, rfl⟩ := Nat.exists_eq_add_one.mpr hb
          apply hidle y (List.mem_of_getElem? hy)
      · obtain ⟨hxidle, hx⟩ := hx.waits hasks hbefore
        refine .inl ⟨hfirst.reattachToken_eq.trans hx, ?_⟩
        intro y hy
        obtain rfl | hy := List.mem_cons.mp hy
        · apply hxidle
        · apply hidle y hy
    · refine .inr ⟨a + 1, y, hy, hasks, rfl, ?_⟩
      intro b z hb hz
      obtain ⟨b, rfl⟩ := Nat.exists_eq_add_one.mpr (Nat.lt_of_le_of_lt (Nat.zero_le _) hb)
      apply hidle b z (Nat.lt_of_succ_lt_succ hb) hz

/-- A number that has been given out and is not waited for never will be. -/
theorem forgets (h : Leads p hs q) {token : TimerToken} (hlt : token < p.timers.next)
    (htoken : p.reattachToken ≠ some token) :
  q.reattachToken ≠ some token
  := by
  apply And.right (a := token < q.timers.next)
  apply h.keeps (M := fun q => token < q.timers.next ∧ q.reattachToken ≠ some token)
  · intro p q hsame hp
    rw [← hsame.next_eq, ← hsame.reattachToken_eq]
    apply hp
  · rintro x - hx ⟨hlt, hne⟩
    have hlt' := Nat.lt_of_lt_of_le hlt hx.token_le
    apply And.intro (Nat.lt_of_lt_of_le hlt' hx.next_le)
    by_cases hasks : x.Asks
    · rw [(hx.asks hasks).1]
      rintro heq
      apply Nat.ne_of_gt hlt' (Option.some.inj heq)
    · intro heq
      apply hne (hx.waits hasks heq).2
  · exact ⟨hlt, htoken⟩

end Leads

/-! ### Chains that are safe -/

/-- The features behind one that has cut them off are offered nothing until they are attached
(`cut`), and they are attached at once, or by the timer that was asked for last, if nothing else has
been asked since (`reattached`); any other such timer does nothing when it goes off (`stale`). -/
structure IsChainSafe (hs : List (Happening φ)) : Prop where
  cut : ∀ {a b i j : Nat} {x y : Happening φ}, a < b → hs[a]? = some x → x.cause = .offered i →
    x.CutsOff → (∀ c z, a < c → c < b → hs[c]? = some z → ¬ z.Reattaches) →
    hs[b]? = some y → y.cause = .offered j → j ≤ i
  reattached : ∀ {c : Nat} {z : Happening φ}, hs[c]? = some z → z.Reattaches →
    z.request.reattachNow = true
      ∨ ∃ t a x, z.cause = .fired t ∧ t.target = .reattach ∧ a < c ∧ hs[a]? = some x ∧ x.Asks
        ∧ x.token = t.token ∧ ∀ b y, a < b → b < c → hs[b]? = some y → y.IsIdle
  stale : ∀ {a b c : Nat} {x y z : Happening φ} {t : Timer}, a < b → b < c →
    hs[a]? = some x → x.Asks → hs[b]? = some y → ¬ y.IsIdle → hs[c]? = some z →
    z.cause = .fired t → t.target = .reattach → t.token = x.token → z.after = z.before

theorem Leads.isChainSafe {p q : Pipeline φ} {hs : List (Happening φ)} (h : Leads p hs q)
    (hp : p.reattachToken = none) :
  IsChainSafe hs
  := by
  constructor
  case cut =>
    intro a b i j x y hab hx hi hcuts hnone hy hj
    obtain ⟨hlawful, hlawful', hbetween⟩ := h.between hab hx hy
    obtain ⟨k, hk, hdetached⟩ : ∃ k ≤ i, y.before.detachedAt = some k := by
      apply hbetween.keeps (M := fun q => ∃ k ≤ i, q.detachedAt = some k)
      · intro p q hsame hp
        rw [← hsame.detachedAt_eq]
        apply hp
      · rintro z hz hzlawful ⟨k, hk, hdetached⟩
        obtain ⟨c, hac, hcb, hc⟩ := exists_of_mem_between hz
        cases hafter : z.after.detachedAt with
        | none =>
          apply absurd _ (hnone c z hac hcb hc)
          refine ⟨?_, hafter⟩
          rw [hdetached]
          rfl
        | some k' =>
          refine ⟨k', ?_, rfl⟩
          obtain hsame | hoffered := hzlawful.detachedAt hafter
          · obtain rfl := Option.some.inj (hdetached.symm.trans hsame)
            apply hk
          · have hlt := hzlawful.attached hoffered
            have hle := attachedCount_le_of_detachedAt hdetached
            omega
      · exact ⟨i, Nat.le_refl i, hlawful.cutsOff hi hcuts⟩
    have hlt := hlawful'.attached hj
    have hle := attachedCount_le_of_detachedAt hdetached
    omega
  case reattached =>
    intro c z hz hreattaches
    obtain ⟨hbefore, hlawful, -⟩ := h.split hz
    obtain hnow | ⟨t, hfired, htarget, htoken⟩ := hlawful.reattaches hreattaches
    · exact .inl hnow
    · obtain ⟨hstart, -⟩ | ⟨a, x, hx, hasks, hxtoken, hidle⟩ := hbefore.awaited htoken
      · cases hp.symm.trans hstart
      · rw [List.getElem?_take] at hx
        split at hx
        case isFalse => cases hx
        case isTrue hac =>
          refine .inr ⟨t, a, x, hfired, htarget, hac, hx, hasks, hxtoken, ?_⟩
          intro b y hab hbc hy
          apply hidle b y hab
          rw [List.getElem?_take, if_pos hbc]
          apply hy
  case stale =>
    intro a b c x y z t hab hbc hx hasks hy hbusy hz hfired htarget htoken
    obtain ⟨hxlawful, hylawful, hxy⟩ := h.between hab hx hy
    obtain ⟨-, hzlawful, hyz⟩ := h.between hbc hy hz
    -- the number is an old one by then, and what is asked takes its place or ends the wait
    have hlt : x.token < y.token :=
      Nat.lt_of_lt_of_le (hxlawful.asks hasks).2 (Nat.le_trans hxy.next_le hylawful.token_le)
    have hne : y.after.reattachToken ≠ some x.token := by
      by_cases hyasks : y.Asks
      · rw [(hylawful.asks hyasks).1]
        intro heq
        apply Nat.ne_of_gt hlt (Option.some.inj heq)
      · intro heq
        apply hbusy (hylawful.waits hyasks heq).1
    apply hzlawful.stale hfired htarget
    rw [htoken]
    apply hyz.forgets (Nat.lt_of_lt_of_le hlt hylawful.next_le) hne

/-! ### What happens when a host does something -/

/-- What a host gives a pipeline to do, with the model that the features find. -/
inductive Event (μ ι : Type) where
  | dispatch (m : μ) (now : Float) (input : ι)
  | tick (m : μ) (now : Float)

section History

variable [Feature φ μ ι]

def Visit.happening (input : ι) (now : Float) (x : Visit φ μ) : Happening φ :=
  .ofTurn (.offered x.index) x.pipeline x.index now (x.reply input now)

/-- What happens when a timer goes off: its feature has a turn, or the pipeline alone sees to it. -/
def Firing.happening (ι : Type) [Feature φ μ ι] (now : Float) (x : Firing φ μ) : Happening φ :=
  let alone : Happening φ :=
    ⟨.fired x.timer, x.pipeline, (x.outcome ι now).pipeline, .none, x.pipeline.timers.next⟩
  match x.timer.target with
  | .reattach => alone
  | .feature index =>
    match x.pipeline.features[index]? with
    | none => alone
    | some f =>
      .ofTurn (.fired x.timer) x.pipeline index now
        (Feature.fire ι f x.timer.token (x.pipeline.turn x.model index now) : Reply Unit φ μ)

/-- The pipeline after it has been given something to do, whatever comes back. -/
def follow (p : Pipeline φ) : Event μ ι → Pipeline φ
  | .dispatch m now input => (p.dispatch m now input).pipeline
  | .tick m now => (p.tick ι m now).pipeline

def followAll (p : Pipeline φ) (events : List (Event μ ι)) : Pipeline φ := events.foldl follow p

/-- What happens when a pipeline is given something to do. -/
def happenings (p : Pipeline φ) : Event μ ι → List (Happening φ)
  | .dispatch m now input => (p.visits m now input).map (·.happening input now)
  | .tick m now => (p.fired ι m now).map (·.happening ι now)

/-- All that happens when a pipeline is given one thing to do after the other. -/
def history (p : Pipeline φ) : List (Event μ ι) → List (Happening φ)
  | [] => []
  | e :: rest => p.happenings e ++ (p.follow e).history rest

end History

/-! ### What happens is lawful -/

section Lawful

variable {β : Type} {p : Pipeline φ} {index : Nat} {r : Reply β φ μ} {cause : Cause}

theorem isLawful_ofTurn (now : Float) (htimers : p.timers.Extends index r.turn.timers)
    (hcause : (cause = .offered index ∧ index < p.attachedCount)
      ∨ ∃ t, cause = .fired t ∧ t.target ≠ .reattach ∧ r.turn.request.detach = false) :
  (Happening.ofTurn cause p index now r).IsLawful
  := by
  constructor
  case token_le => apply htimers.next_le
  case next_le =>
    change r.turn.timers.next ≤ (p.after index now r).timers.next
    rw [next_timers_after]
    split
    · apply Nat.le_succ
    · apply Nat.le_refl
  case attached =>
    intro i hi
    change cause = .offered i at hi
    obtain ⟨rfl, hattached⟩ | ⟨t, rfl, -⟩ := hcause
    · obtain rfl := Cause.offered.inj hi
      apply hattached
    · cases hi
  case detachedAt =>
    intro i hi
    change (p.after index now r).detachedAt = some i at hi
    rw [detachedAt_after] at hi
    split at hi
    · cases hi
    · split at hi
      case isTrue hdetach =>
        obtain rfl := Option.some.inj hi
        obtain ⟨rfl, -⟩ | ⟨t, -, -, hnot⟩ := hcause
        · exact .inr rfl
        · cases hnot.symm.trans hdetach
      case isFalse => exact .inl hi
  case cutsOff =>
    rintro i hi ⟨hdetach, hnow⟩
    change cause = .offered i at hi
    change r.turn.request.detach = true at hdetach
    change r.turn.request.reattachNow = false at hnow
    change (p.after index now r).detachedAt = some i
    obtain ⟨rfl, -⟩ | ⟨t, rfl, -⟩ := hcause
    · obtain rfl := Cause.offered.inj hi
      rw [detachedAt_after, hnow, hdetach]
      rfl
    · cases hi
  case reattaches =>
    rintro ⟨hbefore, hafter⟩
    change p.detachedAt.isSome = true at hbefore
    change (p.after index now r).detachedAt = none at hafter
    rw [detachedAt_after] at hafter
    split at hafter
    case isTrue hnow => exact .inl hnow
    case isFalse =>
      split at hafter
      · cases hafter
      · rw [hafter] at hbefore
        cases hbefore
  case asks =>
    intro hasks
    obtain ⟨delay, hdelay⟩ := Option.isSome_iff_exists.mp hasks
    change r.turn.request.reattachAfter = some delay at hdelay
    change (p.after index now r).reattachToken = some r.turn.timers.next
      ∧ r.turn.timers.next < (p.after index now r).timers.next
    rw [reattachToken_after, next_timers_after, hdelay]
    exact ⟨rfl, Nat.lt_succ_self _⟩
  case waits =>
    intro hasks token hafter
    have hnone : r.turn.request.reattachAfter = none := Option.not_isSome_iff_eq_none.mp hasks
    change (p.after index now r).reattachToken = some token at hafter
    rw [reattachToken_after, hnone] at hafter
    dsimp only at hafter
    split at hafter
    case isTrue => cases hafter
    case isFalse hbusy =>
      refine ⟨?_, hafter⟩
      obtain ⟨hnow, hdetach⟩ := Bool.or_eq_false_iff.mp (Bool.eq_false_iff.mpr hbusy)
      apply ChainRequest.eq_none_iff.mpr ⟨hdetach, hnow, hnone⟩
  case stale =>
    intro t ht htarget
    obtain ⟨rfl, -⟩ | ⟨t', rfl, hne, -⟩ := hcause
    · cases ht
    · obtain rfl := Cause.fired.inj ht
      apply absurd htarget hne

/-- A timer for which no feature has a turn does nothing, or it attaches the features. -/
theorem isLawful_alone {t : Timer} {q : Pipeline φ}
    (h : q = p ∨ (t.target = .reattach ∧ p.reattachToken = some t.token
      ∧ q = { p with detachedAt := none, reattachToken := none })) :
  (⟨.fired t, p, q, .none, p.timers.next⟩ : Happening φ).IsLawful
  := by
  constructor
  case token_le => apply Nat.le_refl
  case next_le => obtain rfl | ⟨-, -, rfl⟩ := h <;> apply Nat.le_refl
  case attached =>
    intro i hi
    cases hi
  case detachedAt =>
    intro i hi
    obtain rfl | ⟨-, -, rfl⟩ := h
    · exact .inl hi
    · cases hi
  case cutsOff =>
    intro i hi
    cases hi
  case reattaches =>
    rintro ⟨hbefore, hafter⟩
    dsimp only at hbefore hafter
    obtain rfl | ⟨htarget, htoken, rfl⟩ := h
    · rw [hafter] at hbefore
      cases hbefore
    · exact .inr ⟨t, rfl, htarget, htoken⟩
  case asks =>
    intro hasks
    cases hasks
  case waits =>
    intro _ token hafter
    obtain rfl | ⟨-, -, rfl⟩ := h
    · exact ⟨rfl, hafter⟩
    · cases hafter
  case stale =>
    intro t' ht htarget hne
    obtain rfl := Cause.fired.inj ht
    obtain rfl | ⟨-, htoken, -⟩ := h
    · rfl
    · apply absurd htoken hne

variable [Feature φ μ ι]

theorem isLawful_firing (htame : Feature.IsTame φ μ ι) (now : Float) (x : Firing φ μ) :
  (x.happening ι now).IsLawful ∧ (x.happening ι now).before = x.pipeline
    ∧ (x.happening ι now).after = (x.outcome ι now).pipeline
  := by
  rw [Firing.happening, Firing.outcome]
  cases htarget : x.timer.target with
  | reattach =>
    refine ⟨isLawful_alone ?_, rfl, rfl⟩
    by_cases htoken : x.pipeline.reattachToken = some x.timer.token
    · refine .inr ⟨htarget, htoken, ?_⟩
      simp only [fireOne, htarget, if_pos htoken]
    · rw [fireOne_of_stale htarget htoken]
      exact .inl rfl
  | feature index =>
    dsimp only
    cases hf : x.pipeline.features[index]? with
    | none =>
      refine ⟨isLawful_alone ?_, rfl, rfl⟩
      rw [fireOne_of_none htarget hf]
      exact .inl rfl
    | some f =>
      rw [fireOne_of_some htarget hf]
      have htimers := htame.fire f x.timer.token (x.pipeline.turn x.model index now)
      refine ⟨isLawful_ofTurn now htimers (.inr ⟨_, rfl, ?_, ?_⟩), rfl, rfl⟩
      · simp [htarget]
      · apply htame.detach f x.timer.token (x.pipeline.turn x.model index now) rfl

/-! ### What happens in a run -/

theorem isLawful_visit (htame : Feature.IsTame φ μ ι) (input : ι) (now : Float) {m : μ}
    {x : Visit φ μ} (hnext : IsNext index p m x) :
  p.SameChain (x.happening input now).before ∧ (x.happening input now).IsLawful
  := by
  obtain ⟨i, f, q, n⟩ := x
  obtain ⟨rfl, rfl, rfl, -, hattached⟩ := hnext
  have htimers := htame.handle f input (q.turn n i now)
  exact ⟨⟨rfl, rfl, rfl⟩, isLawful_ofTurn now htimers (.inl ⟨rfl, hattached⟩)⟩

/-! ### What happens in a run -/

theorem leads_visitsFrom (htame : Feature.IsTame φ μ ι) (input : ι) (now : Float)
    {left index : Nat} {p : Pipeline φ} (m : μ) (hleft : p.features.length ≤ left + index) :
  Leads p ((visitsFrom input now left index p m).map (·.happening input now))
    (dispatchFrom input now left index p m).pipeline
  := by
  induction left generalizing index p m with
  | zero => exact .done ⟨rfl, rfl, rfl⟩
  | succ left ih =>
    cases visitsFrom_cases input now m hleft with
    | done _ hvisits hdispatch =>
      rw [hvisits, hdispatch]
      exact .done ⟨rfl, rfl, rfl⟩
    | stop x hnext _ hvisits hdispatch =>
      rw [hvisits, hdispatch]
      obtain ⟨hsame, hlawful⟩ := isLawful_visit htame input now hnext
      exact .step hsame hlawful (.done ⟨rfl, rfl, rfl⟩)
    | pass x others heq hnext _ hvisits hdispatch =>
      obtain rfl := Nat.succ.inj heq
      rw [hvisits, hdispatch]
      obtain ⟨hsame, hlawful⟩ := isLawful_visit htame input now hnext
      apply Leads.step hsame hlawful
      apply ih _ (hnext.length_le hleft)

theorem leads_firings (htame : Feature.IsTame φ μ ι) (now : Float) (due : List Timer)
    (p : Pipeline φ) (m : μ) :
  Leads p ((firings ι now due p m).map (·.happening ι now)) (fireAll ι now due p m).pipeline
  := by
  induction due generalizing p m with
  | nil => exact .done ⟨rfl, rfl, rfl⟩
  | cons t rest ih =>
    obtain ⟨hlawful, hbefore, hafter⟩ := isLawful_firing htame now (⟨t, p, m⟩ : Firing φ μ)
    have hsame : p.SameChain (Firing.happening ι now ⟨t, p, m⟩).before := by
      rw [hbefore]
      exact ⟨rfl, rfl, rfl⟩
    cases ht : (fireOne ι now t p m).result with
    | ok _ =>
      rw [firings_of_ok ht, fireAll_of_ok ht]
      apply Leads.step hsame hlawful
      rw [hafter]
      apply ih
    | error e =>
      rw [firings_of_error ht, fireAll_of_error ht]
      apply Leads.step hsame hlawful
      rw [hafter]
      exact .done ⟨rfl, rfl, rfl⟩

theorem leads_happenings (htame : Feature.IsTame φ μ ι) (p : Pipeline φ) (e : Event μ ι) :
  Leads p (p.happenings e) (p.follow e)
  := by
  cases e with
  | dispatch m now input => apply leads_visitsFrom htame input now m (Nat.le_refl _)
  | tick m now =>
    apply Leads.of_sameChain _ (leads_firings htame now _ _ m)
    exact ⟨rfl, rfl, rfl⟩

theorem leads_history (htame : Feature.IsTame φ μ ι) (p : Pipeline φ) (events : List (Event μ ι)) :
  Leads p (p.history events) (p.followAll events)
  := by
  induction events generalizing p with
  | nil => exact .done ⟨rfl, rfl, rfl⟩
  | cons e rest ih => apply (leads_happenings htame p e).append (ih (p.follow e))

end Lawful

/-! ### Runs -/

section Runs

variable [Feature φ μ ι]

/-- Timers fail as they did. -/
theorem fireAll_stopping (now : Float) (due : List Timer) (p : Pipeline φ) (m : μ) :
  @fireAll φ μ ι (.stopping φ μ ι) now due p m = fireAll ι now due p m
  := by
  induction due generalizing p m with
  | nil => rfl
  | cons t rest ih =>
    have hone : @fireOne φ μ ι (.stopping φ μ ι) now t p m = fireOne ι now t p m := rfl
    simp only [fireAll, hone, ih]

theorem follow_stopping (p : Pipeline φ) (e : Event μ ι) :
  @follow φ μ ι (.stopping φ μ ι) p e = p.follow e
  := by
  cases e with
  | dispatch m now input =>
    have h := congrArg Outcome.pipeline (p.dispatch_stopping m now input)
    apply h
  | tick m now => exact congrArg Outcome.pipeline (fireAll_stopping now _ _ m)

theorem followAll_stopping (p : Pipeline φ) (events : List (Event μ ι)) :
  @followAll φ μ ι (.stopping φ μ ι) p events = p.followAll events
  := by
  induction events generalizing p with
  | nil => rfl
  | cons e rest ih =>
    simp only [followAll, List.foldl_cons, follow_stopping] at ih ⊢
    apply ih

/-- Discipline in a pipeline of any features whose timers cut off nobody.  Whatever it is given to
do, it gets into a state in which every input is offered to the features in order, each once, from
the first one to the first with which it ends; an error is given back, and neither the pipeline and
the model that the input leaves nor the state itself would be others if every feature had stopped
the inputs with which it failed; and what has happened on the way has kept the features behind one
that had cut them off from seeing anything until they were attached at once or by the timer that was
asked for last. -/
theorem discipline_of_isTame (htame : Feature.IsTame φ μ ι) (features : List φ)
    (events : List (Event μ ι)) :
  let p := (ofFeatures features).followAll events
  (∀ (m : μ) (now : Float) (input : ι), p.Offers m now input)
    ∧ (∀ (m : μ) (now : Float) (input : ι), @dispatch φ μ ι (.stopping φ μ ι) p m now input
      = { p.dispatch m now input with result := .ok () })
    ∧ @followAll φ μ ι (.stopping φ μ ι) (ofFeatures features) events = p
    ∧ IsChainSafe ((ofFeatures features).history events)
  := by
  intro p
  refine ⟨p.offers_dispatch, p.dispatch_stopping, followAll_stopping _ events, ?_⟩
  apply (leads_history htame _ events).isChainSafe rfl

end Runs

end Pipeline

/-! ### Features of this library -/

theorem BuiltIn.isTame {α σ : Type} [Pixel α] [DataSource σ] :
  Feature.IsTame (BuiltIn α) (Model α σ) (Input α)
  := by
  constructor
  case handle =>
    intro f input t
    apply f.extends_handle input t
  case fire =>
    intro f token t
    apply (f.advances_fire token t).timers
  case detach =>
    intro f token t h
    apply (congrArg ChainRequest.detach (f.fire_keeps token t).2.2.2).trans h

namespace Pipeline

/-- A press on a header, which cuts off the features behind the one that moves columns, its release
and a tick. -/
theorem discipline_of_isTame_press :
  let m : Model Rat Table := .ofData (Table.generate 3 3 fun x y => .text (toString (x + y)))
    (ColumnSchema.ofNames ["A", "B", "C"]) Config.default
  let input (kind : PointerKind) : Input Rat :=
    .pointer kind ⟨⟨70, 5⟩, .primary, .none, m.cellAt? ⟨70, 5⟩⟩
  let events : List (Event (Model Rat Table) (Input Rat)) :=
    [.dispatch m 0 (input .down), .dispatch m 0 (input .up), .tick m 1000]
  let start : Pipeline (BuiltIn Rat) := .ofFeatures BuiltIn.all
  let p := start.followAll events
  Feature.IsTame (BuiltIn Rat) (Model Rat Table) (Input Rat)
    ∧ (start.followAll (events.take 1)).detachedAt = some 6
    ∧ (∀ (m : Model Rat Table) (now : Float) (input : Input Rat), p.Offers m now input)
    ∧ (∀ (m : Model Rat Table) (now : Float) (input : Input Rat),
      @dispatch _ _ _ (.stopping (BuiltIn Rat) (Model Rat Table) (Input Rat)) p m now input
        = { p.dispatch m now input with result := .ok () })
    ∧ @followAll _ _ _ (.stopping (BuiltIn Rat) (Model Rat Table) (Input Rat)) start events = p
    ∧ IsChainSafe (start.history events)
  := by
  intro m input events start p
  refine ⟨BuiltIn.isTame, ?_, discipline_of_isTame BuiltIn.isTame _ events⟩
  simp only [start, events, input, m]
  cbv

end Pipeline

end DataGrid
