import DataGrid.Columns.SnapshotReader
import DataGrid.Config.Reader
import DataGrid.Report

/-!
# Views

A `View` is a grid over delimited text for a host that knows only numbers and texts: it names
buttons and columns by number and reads the grid as JSON.
-/

namespace DataGrid

/-- The button of a number: `1` the middle one, `2` the secondary one, any other the primary
one. -/
def Button.ofNumber : Nat → Button
  | 1 => .middle
  | 2 => .secondary
  | _ => .primary

/-- The slot of a number: `-2` the row handle, `-1` the tree column, and from zero on the index of
a shown column. -/
def Slot.ofNumber? (n : Int) : Option Slot :=
  if n = -2 then some .rowHandle
  else if n = -1 then some .tree
  else n.toNat?.map .shown

/-- A grid over delimited text. -/
abbrev View := Grid Float32 Table (BuiltIn Float32)

namespace View

/-- A view of a text with settings in JSON. -/
def ofText (delimiter : Delimiter) (text config : String) : Except GridError View := do
  Grid.ofText delimiter text.toList (← Config.read config.toList)

/-- The modifiers that a host can tell apart. -/
def modifiers (shift ctrl : Bool) : Modifiers :=
  { Modifiers.none with shift := shift, ctrl := ctrl }

/-- A pointer event. -/
def pointer (v : View) (kind : PointerKind) (x y : Float32) (button : Nat) (shift ctrl : Bool) :
    Answer Unit Float32 Table (BuiltIn Float32) :=
  Grid.pointer v kind ⟨x, y⟩ (.ofNumber button) (modifiers shift ctrl)

/-- A key event. -/
def key (v : View) (kind : KeyKind) (key : String) (shift ctrl : Bool) :
    Answer Unit Float32 Table (BuiltIn Float32) :=
  Grid.key v kind ⟨key, modifiers shift ctrl⟩

/-- Bring the columns and the settings into a state that was read before. -/
def restore (v : View) (state : String) : Answer Unit Float32 Table (BuiltIn Float32) :=
  match Snapshot.read state.toList with
  | .ok s => Grid.change v fun m => m.restore s
  | .error e => ⟨.error e, v⟩

/-- The text of a cell on the screen. -/
def cellText? (v : View) (x : Int) (y : Nat) : Option String :=
  (Slot.ofNumber? x).bind fun slot => Grid.cellText? v slot y

def stateText (v : View) : String := v.model.snapshot.toJson.compact

def layoutText (v : View) : String := (Report.layout v.model.layout).compact

def overlaysText (v : View) : String := (Report.overlays v.model.overlays).compact

def selectionText (v : View) : String := (Report.selection v.model.selection).compact

def paintText (v : View) : String := (Report.cells v).compact

end View

end DataGrid
