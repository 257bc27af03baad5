import DataGrid.Feature.BuiltIn

/-!
# Features that follow a script

A `Scripted` feature does the same list of actions whenever it sees an input of a kind.  It can do
all that a feature can do to a pipeline, also what no feature of this library does, such as to
fail; so it serves to try a pipeline out.
-/

namespace DataGrid

/-- What makes a feature act. -/
inductive Occasion where
  | pointer (kind : PointerKind)
  | key (kind : KeyKind)
  | rendered
  | timer
deriving DecidableEq

/-- The kind of an input. -/
def Input.occasion {α : Type} : Input α → Occasion
  | .pointer kind _ => .pointer kind
  | .key kind _ => .key kind
  | .rendered => .rendered

/-- One thing that a feature does. -/
inductive Action where
  | detach
  | reattachNow
  /-- Put the pipeline together after the time that the settings give. -/
  | reattachLater
  | schedule (delay : Float)
  | scrollBy (columns rows : Int)
  /-- Tell the listeners that the selection has changed. -/
  | emit
  /-- Stop the input when all actions are done. -/
  | stop
  /-- Give up at once. -/
  | fail (reason : String)

/-- A feature that follows a script. -/
structure Scripted where
  name : String
  icon : Option PointerIcon
  script : Occasion → List Action

namespace Scripted

variable {α σ : Type} [Pixel α] [DataSource σ]

/-- Do actions one after the other. -/
def act : List Action → Flow → GridTurn α σ → Except GridError Flow × GridTurn α σ
  | [], flow, t => (.ok flow, t)
  | .detach :: rest, flow, t => act rest flow t.detach
  | .reattachNow :: rest, flow, t => act rest flow t.reattachNow
  | .reattachLater :: rest, flow, t =>
    act rest flow (t.reattachAfter t.model.config.reattachDelay)
  | .schedule delay :: rest, flow, t => act rest flow (t.schedule delay).2
  | .scrollBy columns rows :: rest, flow, t =>
    act rest flow (t.modify fun m => m.scrollBy columns rows)
  | .emit :: rest, flow, t => act rest flow (t.modify fun m => m.emit .selectionChanged)
  | .stop :: rest, _, t => act rest .stop t
  | .fail reason :: _, _, t => (.error (.other reason), t)

/-- Do what the script says for an occasion. -/
def follow (s : Scripted) (o : Occasion) (t : GridTurn α σ) :
    Reply Flow Scripted (Model α σ) :=
  let (result, t) := act (s.script o) .pass t
  ⟨result, s, t⟩

instance : FeatureInfo Scripted where
  name := Scripted.name
  icon? := Scripted.icon

instance : Feature Scripted (Model α σ) (Input α) where
  handle s input t := s.follow input.occasion t
  fire s _ t :=
    let r := s.follow .timer t
    ⟨r.result.map fun _ => (), r.feature, r.turn⟩

end Scripted

end DataGrid
