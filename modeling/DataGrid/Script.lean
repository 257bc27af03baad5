import DataGrid.Grid.Call
import DataGrid.Json.Decode

/-!
# Scripts

A script is a JSON array of interactions that are done to a grid one after the other.  Each names
what it is and gives its parts, as an object or as an array with the name in front.  The whole of
an interaction has to be JSON, also what is not asked for.
-/

namespace DataGrid

open Json

/-- One interaction of a script. -/
structure ScriptStep where
  /-- What the clock is set to first. -/
  time? : Option Float
  call : Call Float32 Table

/-- The interactions of a script, in order. -/
abbrev Script := List ScriptStep

namespace Script

/-- The name of an interaction and the document of its parts. -/
def named? : Document → Option (String × Document)
  | .array (name :: parts) => name.text?.map fun n => (n, .array parts)
  | .object members =>
    let isName (m : List StringUnit × Document) := StringUnit.text? m.1 = some "op"
    match members.filter isName with
    | [(_, name)] => name.text?.map fun n => (n, .object (members.filter fun m => !isName m))
    | _ => none
  | _ => none

/-- A part that may be `null` and that only an object may leave out. -/
def nullable {β : Type} (body : Document) (f : Document.Fields) (name : String)
    (read : Document → Option β) : Option (Option β) :=
  match f.get? name, body with
  | some d, _ => d.nullable? read
  | none, .object _ => some none
  | none, _ => none

/-- The name of a button: a string, or an object with nothing under the name. -/
def buttonName? : Document → Option String
  | .object [(key, .object [])] => StringUnit.text? key
  | d => d.name?

/-- The button that a document names. -/
def button? (d : Document) : Option Button :=
  (buttonName? d).bind fun
    | "primary" => some .primary
    | "secondary" => some .secondary
    | "middle" => some .middle
    | _ => none

/-- The modifiers that a document lists; those that are left out are up. -/
def modifiers? (d : Document) : Option Modifiers := do
  let f ← d.fields? ["shift", "ctrl", "alt", "meta"]
  return {
    shift := ← f.optional "shift" false Document.bool?
    ctrl := ← f.optional "ctrl" false Document.bool?
    alt := ← f.optional "alt" false Document.bool?
    command := ← f.optional "meta" false Document.bool? }

/-- The kind of pointer event of a name. -/
def pointerKind? : String → Option PointerKind
  | "pointerDown" => some .down
  | "pointerMove" => some .move
  | "pointerDrag" => some .drag
  | "pointerUp" => some .up
  | "doubleClick" => some .doubleClick
  | "contextMenu" => some .contextMenu
  | _ => none

/-- A pointer event. -/
def pointer? (kind : PointerKind) (body : Document) : Option ScriptStep := do
  let f ← body.fields? ["x", "y", "button", "modifiers", "at"]
  let x ← f.required "x" Document.float32?
  let y ← f.required "y" Document.float32?
  let button ← f.optional "button" .primary button?
  let modifiers ← f.optional "modifiers" .none modifiers?
  let time? ← nullable body f "at" Document.float?
  return ⟨time?, .pointer kind ⟨x, y⟩ button modifiers⟩

/-- A key that is pressed. -/
def key? (body : Document) : Option (Call Float32 Table) := do
  let f ← body.fields? ["key", "modifiers"]
  let key ← f.required "key" Document.text?
  let modifiers ← f.optional "modifiers" .none modifiers?
  return .key .down ⟨key, modifiers⟩

/-- Columns of the table that are shown before a column, or after all others. -/
def showColumns? (body : Document) : Option (Call Float32 Table) := do
  let f ← body.fields? ["indexes", "before"]
  let indexes ← f.required "indexes" (Document.list? Document.nat?)
  let before? ← nullable body f "before" Document.nat?
  let placement : Columns.Placement :=
    match before? with
    | some i => .before i
    | none => .atEnd
  return .showColumns .all indexes placement false

/-- An interaction that is no pointer event, by its name and its parts. -/
def call? (name : String) (body : Document) : Option (Call Float32 Table) :=
  match name with
  | "resize" => do
    let f ← body.fields? ["width", "height"]
    return .resizeViewport (← f.required "width" Document.float32?)
      (← f.required "height" Document.float32?)
  | "scroll" => do
    let f ← body.fields? ["columns", "rows"]
    return .scrollBy (← f.optional "columns" 0 Document.int?) (← f.optional "rows" 0 Document.int?)
  | "key" => key? body
  | "tick" => do
    let f ← body.fields? ["now"]
    return .tick (← f.required "now" Document.float?)
  | "moveColumns" => do
    let f ← body.fields? ["from", "count", "to"]
    return .moveColumns (← f.required "from" Document.nat?) (← f.required "count" Document.nat?)
      (← f.required "to" Document.nat?)
  | "hideColumns" => do
    let f ← body.fields? ["indexes"]
    return .hideColumns .all (← f.required "indexes" (Document.list? Document.nat?))
  | "showColumns" => showColumns? body
  | "fixColumns" => do
    let f ← body.fields? ["count"]
    return .setFixedColumns (← f.required "count" Document.nat?)
  | "fixRows" => do
    let f ← body.fields? ["count"]
    return .setFixedRows (← f.required "count" Document.nat?)
  | _ => none

/-- The interaction that a document holds. -/
def step? (d : Document) : Option ScriptStep := do
  let _ ← d.json? (maxDepth - 1)
  let (name, body) ← named? d
  match pointerKind? name with
  | some kind => pointer? kind body
  | none => (call? name body).map fun c => ⟨none, c⟩

/-- Read the script that a text writes. -/
def read (text : List Char) : Except GridError Script :=
  match (Document.parse? text).bind (Document.list? step?) with
  | some s => .ok s
  | none => .error .json

end Script

namespace Grid

variable {φ : Type} [Feature φ (Model Float32 Table) (Input Float32)]

/-- Do one interaction of a script. -/
def step (g : Grid Float32 Table φ) (s : ScriptStep) : Answer Unit Float32 Table φ :=
  (match s.time? with
    | some now => g.setClock now
    | none => g).perform s.call

/-- Do the interactions of a script, counted from `index` on, and go on after those that
fail; gives the grid, and the number and the error of each that failed. -/
def replay (g : Grid Float32 Table φ) :
    (index : Nat) → Script → Grid Float32 Table φ × List (Nat × GridError)
  | _, [] => (g, [])
  | index, s :: rest =>
    let a := g.step s
    let (final, failed) := a.grid.replay (index + 1) rest
    match a.result with
    | .ok () => (final, failed)
    | .error e => (final, (index, e) :: failed)

end Grid

end DataGrid
