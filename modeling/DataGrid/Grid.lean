import DataGrid.Cursor
import DataGrid.Feature.BuiltIn
import DataGrid.Painting
import DataGrid.Table.Delimited

/-!
# Grids

A `Grid` joins a model with the pipeline of features that see its inputs, the listeners that are
told of its changes, and a clock that its host sets.  Whatever is done to it, it then tells the
features if the layout has been computed anew (`Grid.settle`), and after that the listeners of what
has changed.  If both the features' answer to an input and their answer to the new layout are
errors, the first one is given back.
-/

namespace DataGrid

/-- A grid over data of type `σ` with features of type `φ`. -/
structure Grid (α σ φ : Type) where
  model : Model α σ
  pipeline : Pipeline φ
  notifier : Notifier α
  /-- The time of the host, in milliseconds. -/
  now : Float

/-- What a call of a grid gives back, and the grid after it. -/
structure Answer (β α σ φ : Type) where
  result : Except GridError β
  grid : Grid α σ φ

namespace Grid

variable {α σ φ : Type} [Pixel α] [DataSource σ]

/-- A grid with a pipeline of its own, whatever features the settings name. -/
def ofPipeline (data : σ) (schema : List ColumnSchema) (config : Config α)
    (pipeline : Pipeline φ) : Grid α σ φ where
  model := { (Model.ofData data schema config).takeNotices.2 with relaid := false }
  pipeline := pipeline
  notifier := .empty
  now := 0

/-- A grid with the features that its settings name. -/
def ofConfig (data : σ) (schema : List ColumnSchema) (config : Config α) :
    Except GridError (Grid α σ (BuiltIn α)) :=
  (Pipeline.ofNames config.features).map fun p => ofPipeline data schema config p

omit [DataSource σ] in
/-- A grid over delimited text, whose first line names the columns. -/
def ofText (delimiter : Delimiter) (text : List Char) (config : Config α) :
    Except GridError (Grid α Table (BuiltIn α)) := do
  let sheet ← Sheet.parse delimiter text
  ofConfig sheet.table sheet.schema config

omit [Pixel α] [DataSource σ] in
/-- Set the clock. -/
def setClock (g : Grid α σ φ) (now : Float) : Grid α σ φ := { g with now := now }

omit [Pixel α] [DataSource σ] in
/-- Tell the listeners what has changed. -/
def flush (g : Grid α σ φ) : Grid α σ φ :=
  let (notices, model) := g.model.takeNotices
  { g with model := model, notifier := g.notifier.tell notices }

omit [Pixel α] [DataSource σ] in
/-- Offer an input to the features. -/
def offer [Feature φ (Model α σ) (Input α)] (g : Grid α σ φ) (input : Input α) :
    Answer Unit α σ φ :=
  let o := g.pipeline.dispatch g.model g.now input
  ⟨o.result, { g with pipeline := o.pipeline, model := o.model }⟩

omit [Pixel α] [DataSource σ] in
/-- Tell the features of a new layout, if there is one. -/
def notifyRendered [Feature φ (Model α σ) (Input α)] (g : Grid α σ φ) : Answer Unit α σ φ :=
  if g.model.relaid then { g with model := { g.model with relaid := false } }.offer .rendered
  else ⟨.ok (), g⟩

omit [Pixel α] [DataSource σ] in
/-- Tell the features of a new layout, and then the listeners what has changed.  An error from
before counts for more than one from now. -/
def settle [Feature φ (Model α σ) (Input α)] (a : Answer Unit α σ φ) : Answer Unit α σ φ :=
  let r := a.grid.notifyRendered
  ⟨match a.result with
    | .ok () => r.result
    | .error e => .error e,
    r.grid.flush⟩

omit [Pixel α] [DataSource σ] in
/-- Change the model. -/
def change [Feature φ (Model α σ) (Input α)] (g : Grid α σ φ) (f : Model α σ → Model α σ) :
    Answer Unit α σ φ :=
  settle ⟨.ok (), { g with model := f g.model }⟩

/-! ### Events -/

/-- A pointer event at a point. -/
def pointer [Feature φ (Model α σ) (Input α)] (g : Grid α σ φ) (kind : PointerKind)
    (point : Point α) (button : Button) (modifiers : Modifiers) : Answer Unit α σ φ :=
  settle (g.offer (.pointer kind ⟨point, button, modifiers, g.model.cellAt? point⟩))

omit [Pixel α] [DataSource σ] in
/-- A key event. -/
def key [Feature φ (Model α σ) (Input α)] (g : Grid α σ φ) (kind : KeyKind) (event : KeyEvent) :
    Answer Unit α σ φ :=
  settle (g.offer (.key kind event))

omit [Pixel α] [DataSource σ] in
/-- Set the clock and let all timers go off that are due. -/
def tick [Feature φ (Model α σ) (Input α)] (g : Grid α σ φ) (now : Float) : Answer Unit α σ φ :=
  let o := g.pipeline.tick (Input α) g.model now
  settle ⟨o.result, { g with pipeline := o.pipeline, model := o.model, now := now }⟩

/-! ### Changes by the host -/

/-- Move a run of shown columns before the one at `target`; gives back whether anything changed. -/
def moveColumns [Feature φ (Model α σ) (Input α)] (g : Grid α σ φ) (start count target : Nat) :
    Answer Bool α σ φ :=
  let moved? := g.model.moveColumns? start count target
  let a := g.change fun m => moved?.getD m
  ⟨a.result.map fun () => moved?.isSome, a.grid⟩

/-- Put another table into the grid.  The features hear of the new layout with the next call. -/
def load (g : Grid α σ φ) (data : σ) (schema : List ColumnSchema) : Grid α σ φ :=
  { g with model := g.model.load data schema }.flush

omit [Pixel α] in
/-- Write a value through the cell at a place on the grid; `none` if no data cell is there.  Nobody
is told. -/
def setValue? (g : Grid α σ φ) (x : Slot) (y : Nat) (value : CellValue) :
    Option (Grid α σ φ) := do
  let cursor ← Cursor.toGrid? g.model.scene x y
  let (_, data) ← cursor.setValue? g.model.data value
  return { g with model := { g.model with data := data } }

/-! ### Listeners -/

omit [Pixel α] [DataSource σ] in
/-- Add a listener; gives its number. -/
def subscribe (g : Grid α σ φ) : Nat × Grid α σ φ :=
  let (listener, notifier) := g.notifier.subscribe
  (listener, { g with notifier := notifier })

omit [Pixel α] [DataSource σ] in
/-- Take a listener away. -/
def unsubscribe (g : Grid α σ φ) (listener : Nat) : Grid α σ φ :=
  { g with notifier := g.notifier.unsubscribe listener }

/-! ### What a host reads -/

omit [Pixel α] [DataSource σ] in
/-- The shape of the pointer. -/
def icon [FeatureInfo φ] (g : Grid α σ φ) : PointerIcon := g.pipeline.icon

omit [Pixel α] in
/-- The display text of the cell at a place on the grid, if it is on the screen. -/
def cellText? (g : Grid α σ φ) (x : Slot) (y : Nat) : Option String :=
  (Binding.ofGrid? g.model.scene x y).map fun b =>
    b.text g.model.scene (b.properties g.model.scene none)

end Grid

end DataGrid
