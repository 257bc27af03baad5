import DataGrid.Error
import DataGrid.Pipeline.Timers
import DataGrid.PointerIcon

/-!
# Pipelines

A pipeline offers each input to its features, in order.  A feature passes the input on, or stops
it; an error stops it too and is given back, and the next input starts at the first feature again.

A feature can cut off the features after it.  They see nothing until the pipeline is put together
again, at once or when a timer goes off.  Of several such timers only the one that was set last
counts, and none that was set before the features were cut off.
-/

namespace DataGrid

/-- What becomes of an input after a feature has handled it. -/
inductive Flow where
  | pass
  | stop
deriving DecidableEq

/-- What a feature asks of the pipeline. -/
structure ChainRequest where
  detach : Bool
  reattachNow : Bool
  /-- The time after which the pipeline is to be put together again. -/
  reattachAfter : Option Float

/-- Nothing is asked of the pipeline. -/
def ChainRequest.none : ChainRequest := ⟨false, false, .none⟩

/-- What a feature sees and may change while it handles an input. -/
structure Turn (μ : Type) where
  model : μ
  timers : Timers
  request : ChainRequest
  /-- The place of the feature in the pipeline. -/
  index : Nat
  now : Float

namespace Turn

variable {μ : Type}

/-- Change the model. -/
def modify (t : Turn μ) (f : μ → μ) : Turn μ := { t with model := f t.model }

/-- Cut off the features after this one. -/
def detach (t : Turn μ) : Turn μ := { t with request := { t.request with detach := true } }

/-- Put the pipeline together again. -/
def reattachNow (t : Turn μ) : Turn μ :=
  { t with request := { t.request with reattachNow := true } }

/-- Put the pipeline together again after a while. -/
def reattachAfter (t : Turn μ) (delay : Float) : Turn μ :=
  { t with request := { t.request with reattachAfter := some delay } }

/-- Set a timer for this feature; gives its number. -/
def schedule (t : Turn μ) (delay : Float) : TimerToken × Turn μ :=
  let (token, timers) := t.timers.schedule (.feature t.index) (t.now + delay)
  (token, { t with timers := timers })

end Turn

/-- What a feature answers: a result or an error, its own new state, and the turn as it leaves
it. -/
structure Reply (β φ μ : Type) where
  result : Except GridError β
  feature : φ
  turn : Turn μ

/-- What is known of a feature from outside. -/
class FeatureInfo (φ : Type) where
  name : φ → String
  /-- The shape that the feature wants the pointer to have now. -/
  icon? : φ → Option PointerIcon

/-- A feature: how it handles inputs and its own timers. -/
class Feature (φ μ ι : Type) where
  handle : φ → ι → Turn μ → Reply Flow φ μ
  fire : φ → TimerToken → Turn μ → Reply Unit φ μ

/-- What becomes of the feature in a reply. -/
def Reply.mapFeature {β φ ψ μ : Type} (r : Reply β φ μ) (f : φ → ψ) : Reply β ψ μ :=
  ⟨r.result, f r.feature, r.turn⟩

/-- A feature of either of two types. -/
instance {φ ψ : Type} [FeatureInfo φ] [FeatureInfo ψ] : FeatureInfo (φ ⊕ ψ) where
  name := Sum.elim FeatureInfo.name FeatureInfo.name
  icon? := Sum.elim FeatureInfo.icon? FeatureInfo.icon?

/-- A feature of either of two types. -/
instance {φ ψ μ ι : Type} [Feature φ μ ι] [Feature ψ μ ι] : Feature (φ ⊕ ψ) μ ι where
  handle
    | .inl f, input, t => (Feature.handle f input t).mapFeature .inl
    | .inr f, input, t => (Feature.handle f input t).mapFeature .inr
  fire
    | .inl f, token, t => (Feature.fire ι f token t).mapFeature .inl
    | .inr f, token, t => (Feature.fire ι f token t).mapFeature .inr

/-- The features of a grid, in order. -/
structure Pipeline (φ : Type) where
  features : List φ
  /-- The feature that has cut off those after it. -/
  detachedAt : Option Nat
  timers : Timers
  /-- The timer that will put the pipeline together again. -/
  reattachToken : Option TimerToken

namespace Pipeline

variable {φ μ ι : Type}

/-- A pipeline of these features. -/
def ofFeatures (features : List φ) : Pipeline φ := ⟨features, none, .none, none⟩

/-- Add a feature after the others. -/
def push (p : Pipeline φ) (f : φ) : Pipeline φ := { p with features := p.features ++ [f] }

def isDetached (p : Pipeline φ) : Bool := p.detachedAt.isSome

/-- How many features see inputs. -/
def attachedCount (p : Pipeline φ) : Nat :=
  match p.detachedAt with
  | none => p.features.length
  | some i => min (i + 1) p.features.length

/-- When the next timer is due. -/
def nextDue? (p : Pipeline φ) : Option Float := p.timers.nextDue?

/-- The shape of the pointer that the first of the attached features with a wish wants. -/
def icon [FeatureInfo φ] (p : Pipeline φ) : PointerIcon :=
  ((p.features.take p.attachedCount).findSome? FeatureInfo.icon?).getD .default

/-- Do what the feature at an index has asked for. -/
def grant (p : Pipeline φ) (r : ChainRequest) (index : Nat) (now : Float) : Pipeline φ :=
  let p := if r.detach then { p with detachedAt := some index, reattachToken := none } else p
  let p := if r.reattachNow then { p with detachedAt := none, reattachToken := none } else p
  match r.reattachAfter with
  | none => p
  | some delay =>
    let (token, timers) := p.timers.schedule .reattach (now + delay)
    { p with timers := timers, reattachToken := some token }

/-- The turn of the feature at an index. -/
def turn (p : Pipeline φ) (m : μ) (index : Nat) (now : Float) : Turn μ :=
  ⟨m, p.timers, .none, index, now⟩

/-- The pipeline after the turn of the feature at an index. -/
def after {β : Type} (p : Pipeline φ) (index : Nat) (now : Float) (r : Reply β φ μ) :
    Pipeline φ :=
  { p with features := p.features.set index r.feature, timers := r.turn.timers }.grant
    r.turn.request index now

/-- What is left of a pipeline and a model when they have been given something to do. -/
structure Outcome (φ μ : Type) where
  result : Except GridError Unit
  pipeline : Pipeline φ
  model : μ

/-- Offer an input to at most `left` features, from the one at `index` on. -/
def dispatchFrom [Feature φ μ ι] (input : ι) (now : Float) :
    (left index : Nat) → Pipeline φ → μ → Outcome φ μ
  | 0, _, p, m => ⟨.ok (), p, m⟩
  | left + 1, index, p, m =>
    match p.features[index]? with
    | none => ⟨.ok (), p, m⟩
    | some f =>
      if index < p.attachedCount then
        let r := Feature.handle f input (p.turn m index now)
        let p := p.after index now r
        match r.result with
        | .ok .pass => dispatchFrom input now left (index + 1) p r.turn.model
        | .ok .stop => ⟨.ok (), p, r.turn.model⟩
        | .error e => ⟨.error e, p, r.turn.model⟩
      else ⟨.ok (), p, m⟩

/-- Offer an input to the attached features, in order. -/
def dispatch [Feature φ μ ι] (p : Pipeline φ) (m : μ) (now : Float) (input : ι) : Outcome φ μ :=
  dispatchFrom input now p.features.length 0 p m

/-- Let one timer go off. -/
def fireOne (ι : Type) [Feature φ μ ι] (now : Float) (t : Timer) (p : Pipeline φ) (m : μ) :
    Outcome φ μ :=
  match t.target with
  | .reattach =>
    if p.reattachToken = some t.token then
      ⟨.ok (), { p with detachedAt := none, reattachToken := none }, m⟩
    else ⟨.ok (), p, m⟩
  | .feature index =>
    match p.features[index]? with
    | none => ⟨.ok (), p, m⟩
    | some f =>
      let r : Reply Unit φ μ := Feature.fire ι f t.token (p.turn m index now)
      ⟨r.result, p.after index now r, r.turn.model⟩

/-- Let timers go off one after the other, up to the first one that fails. -/
def fireAll (ι : Type) [Feature φ μ ι] (now : Float) :
    List Timer → Pipeline φ → μ → Outcome φ μ
  | [], p, m => ⟨.ok (), p, m⟩
  | t :: rest, p, m =>
    let o := fireOne ι now t p m
    match o.result with
    | .ok () => fireAll ι now rest o.pipeline o.model
    | .error e => ⟨.error e, o.pipeline, o.model⟩

/-- Let all timers go off that are due.  If one fails, those after it are dropped. -/
def tick (ι : Type) [Feature φ μ ι] (p : Pipeline φ) (m : μ) (now : Float) : Outcome φ μ :=
  let (due, timers) := p.timers.takeDue now
  fireAll ι now due { p with timers := timers } m

end Pipeline

end DataGrid
