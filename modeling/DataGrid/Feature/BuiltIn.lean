import DataGrid.Feature.CellSelection
import DataGrid.Feature.ColumnFixation
import DataGrid.Feature.ColumnMoving
import DataGrid.Feature.ColumnResizing
import DataGrid.Feature.ColumnSelection
import DataGrid.Feature.ContextMenu
import DataGrid.Feature.Hover
import DataGrid.Feature.KeyPaging
import DataGrid.Feature.RowFixation
import DataGrid.Feature.RowSelection

/-!
# The features of this library

A `BuiltIn` is one of the ten features with the state it is in.  Each has a name, under which a
configuration lists it (`BuiltIn.name_of_ofName`).
-/

namespace DataGrid

/-- A feature of this library and its state. -/
inductive BuiltIn (α : Type) where
  | hover
  | columnFixation (state : ColumnFixation)
  | rowFixation (state : RowFixation)
  | columnResizing (state : ColumnResizing α)
  | rowSelection (state : RowSelection)
  | columnSelection (state : ColumnSelection)
  | columnMoving (state : ColumnMoving α)
  | cellSelection (state : CellSelection α)
  | keyPaging
  | contextMenu (state : ContextMenu)

namespace BuiltIn

variable {α σ : Type}

/-- The name of a feature. -/
def name : BuiltIn α → String
  | .hover => "on_hover"
  | .columnFixation _ => "column_fixation"
  | .rowFixation _ => "row_fixation"
  | .columnResizing _ => "column_resizing"
  | .rowSelection _ => "row_selection"
  | .columnSelection _ => "column_selection"
  | .columnMoving _ => "column_moving"
  | .cellSelection _ => "cell_selection"
  | .keyPaging => "key_paging"
  | .contextMenu _ => "context_menu"

/-- All features, each as it is at first. -/
def all : List (BuiltIn α) :=
  [.hover, .columnFixation .idle, .rowFixation .idle, .columnResizing .idle, .rowSelection .idle,
   .columnSelection .idle, .columnMoving .idle, .cellSelection .idle, .keyPaging,
   .contextMenu .idle]

/-- The feature of a name, as it is at first. -/
def ofName (name : String) : Except GridError (BuiltIn α) :=
  match all.find? fun f => f.name = name with
  | some f => .ok f
  | none => .error (.unknownFeature name)

/-- The feature of a name has that name. -/
theorem name_of_ofName {n : String} {f : BuiltIn α} (h : ofName n = .ok f) :
  f.name = n
  := by
  unfold ofName at h
  split at h
  · next g hg =>
    obtain rfl : g = f := by simpa using h
    simpa using List.find?_some hg
  · simp at h

/-- The shape that a feature wants the pointer to have. -/
def icon? : BuiltIn α → Option PointerIcon
  | .columnFixation s => s.icon?
  | .rowFixation s => s.icon?
  | .columnResizing s => s.icon?
  | .columnMoving s => s.icon?
  | _ => none

instance : FeatureInfo (BuiltIn α) where
  name := name
  icon? := icon?

/-- The reply of a feature with states `S`, which never fails. -/
def reply {S : Type} (wrap : S → BuiltIn α) (s : Step S (Model α σ)) :
    Reply Flow (BuiltIn α) (Model α σ) :=
  ⟨.ok s.flow, wrap s.state, s.turn⟩

variable [Pixel α] [DataSource σ]

/-- Answer an input. -/
def handle (f : BuiltIn α) (input : Input α) (t : GridTurn α σ) :
    Reply Flow (BuiltIn α) (Model α σ) :=
  match f with
  | .hover => reply (fun _ => .hover) (Hover.handle input t)
  | .columnFixation s => reply .columnFixation (s.handle input t)
  | .rowFixation s => reply .rowFixation (s.handle input t)
  | .columnResizing s => reply .columnResizing (s.handle input t)
  | .rowSelection s => reply .rowSelection (s.handle input t)
  | .columnSelection s => reply .columnSelection (s.handle input t)
  | .columnMoving s => reply .columnMoving (s.handle input t)
  | .cellSelection s => reply .cellSelection (s.handle input t)
  | .keyPaging => reply (fun _ => .keyPaging) (KeyPaging.handle input t)
  | .contextMenu s => reply .contextMenu (s.handle input t)

/-- Do what a timer is for. -/
def fire (f : BuiltIn α) (timer : TimerToken) (t : GridTurn α σ) :
    Reply Unit (BuiltIn α) (Model α σ) :=
  match f with
  | .columnMoving s =>
    let (s, t) := s.fire timer t
    ⟨.ok (), .columnMoving s, t⟩
  | .cellSelection s =>
    let (s, t) := s.fire timer t
    ⟨.ok (), .cellSelection s, t⟩
  | f => ⟨.ok (), f, t⟩

instance : Feature (BuiltIn α) (Model α σ) (Input α) where
  handle := handle
  fire := fire

end BuiltIn

/-- The pipeline of the features of these names. -/
def Pipeline.ofNames {α : Type} (names : List String) : Except GridError (Pipeline (BuiltIn α)) :=
  (names.mapM BuiltIn.ofName).map .ofFeatures

end DataGrid
