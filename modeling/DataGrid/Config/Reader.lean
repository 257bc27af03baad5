import DataGrid.Config
import DataGrid.Error
import DataGrid.Json.Decode

/-!
# Reading a configuration

A configuration is a JSON object with any of the settings, or an array of the first ones of them.
-/

namespace DataGrid.Config

open Json

/-- The names of the settings, in order. -/
def settingNames : List String :=
  ["fixedColumnCount", "fixedRowCount", "headerRowCount", "showFilterRow", "showRowNumbers",
   "showTreeColumn", "columnsReorderable", "rowSelection", "defaultColumnWidth",
   "minimumColumnWidth", "maximumColumnWidth", "defaultRowHeight", "headerRowHeight",
   "rowHandleWidth", "treeColumnWidth", "resizeMargin", "columnMoveInsertLineWidth",
   "fixedLineWidth", "autoscrollThreshold", "minScrollDelayMs", "maxScrollDelayMs",
   "scrollDelayStepMs", "selectScrollIntervalMs", "reattachDelayMs", "autosizeCharWidth",
   "autosizePadding", "spanLookback", "cellDefaults", "features"]

/-- The configuration that a document holds. -/
def ofDocument? (d : Document) : Option (Config Float32) := do
  let f ← d.fields? settingNames
  let c : Config Float32 := default
  return {
    fixedColumns := ← f.optional "fixedColumnCount" c.fixedColumns Document.nat?
    fixedRows := ← f.optional "fixedRowCount" c.fixedRows Document.nat?
    headerRows := ← f.optional "headerRowCount" c.headerRows Document.nat?
    showFilterRow := ← f.optional "showFilterRow" c.showFilterRow Document.bool?
    showRowHandle := ← f.optional "showRowNumbers" c.showRowHandle Document.bool?
    showTree := ← f.optional "showTreeColumn" c.showTree Document.bool?
    columnsReorderable := ← f.optional "columnsReorderable" c.columnsReorderable Document.bool?
    rowSelection := ← f.optional "rowSelection" c.rowSelection Document.bool?
    columnWidth := ← f.optional "defaultColumnWidth" c.columnWidth Document.float32?
    minimumColumnWidth := ← f.optional "minimumColumnWidth" c.minimumColumnWidth Document.float32?
    maximumColumnWidth := ← f.optional "maximumColumnWidth" c.maximumColumnWidth
      (Document.nullable? Document.float32?)
    rowHeight := ← f.optional "defaultRowHeight" c.rowHeight Document.float32?
    headerRowHeight := ← f.optional "headerRowHeight" c.headerRowHeight Document.float32?
    rowHandleWidth := ← f.optional "rowHandleWidth" c.rowHandleWidth Document.float32?
    treeWidth := ← f.optional "treeColumnWidth" c.treeWidth Document.float32?
    resizeMargin := ← f.optional "resizeMargin" c.resizeMargin Document.float32?
    insertLineWidth := ← f.optional "columnMoveInsertLineWidth" c.insertLineWidth
      Document.float32?
    fixedLineWidth := ← f.optional "fixedLineWidth" c.fixedLineWidth Document.float32?
    autoscrollThreshold := ← f.optional "autoscrollThreshold" c.autoscrollThreshold
      Document.float32?
    minScrollDelay := ← f.optional "minScrollDelayMs" c.minScrollDelay Document.float?
    maxScrollDelay := ← f.optional "maxScrollDelayMs" c.maxScrollDelay Document.float?
    scrollDelayStep := ← f.optional "scrollDelayStepMs" c.scrollDelayStep Document.float?
    selectScrollInterval := ← f.optional "selectScrollIntervalMs" c.selectScrollInterval
      Document.float?
    reattachDelay := ← f.optional "reattachDelayMs" c.reattachDelay Document.float?
    autosizeCharWidth := ← f.optional "autosizeCharWidth" c.autosizeCharWidth Document.float32?
    autosizePadding := ← f.optional "autosizePadding" c.autosizePadding Document.float32?
    spanLookback := ← f.optional "spanLookback" c.spanLookback Document.nat?
    cellDefaults := ← f.optional "cellDefaults" c.cellDefaults (Document.properties? 1)
    features := ← f.optional "features" c.features (Document.list? Document.text?) }

/-- Read the configuration that a text writes. -/
def read (text : List Char) : Except GridError (Config Float32) :=
  match (Document.parse? text).bind ofDocument? with
  | some c => .ok c
  | none => .error .json

end DataGrid.Config
