import DataGrid.Columns.Snapshot
import DataGrid.Json.Decode

/-!
# Reading snapshots and schemas

Snapshots and schemas are kept as JSON.
-/

namespace DataGrid

open Json

namespace ColumnId

/-- The column of a kind and, for a data column, its index. -/
def ofParts? (kind : String) (index : Option Document) : Option ColumnId :=
  match kind, index with
  | "data", some d => d.nat?.map .data
  | "rowHandle", none | "rowHandle", some .null => some .rowHandle
  | "treeIndent", none | "treeIndent", some .null => some .tree
  | _, _ => none

/-- The column that a document names by its kind and index, as an object or as a pair.  A pair
begins with the plain string of the kind. -/
def ofDocument? : Document → Option ColumnId
  | .array [kind, index] => kind.text?.bind fun k => ofParts? k (some index)
  | .object members => do
    let f ← Document.objectFields? ["kind", "index"] members
    let kind ← f.required "kind" Document.name?
    ofParts? kind (f.get? "index")
  | _ => none

end ColumnId

namespace ColumnSchema

/-- The entry of a schema that a document holds. -/
def ofDocument? (d : Document) : Option ColumnSchema := do
  let f ← d.fields? ["index", "name", "header", "type"]
  return {
    index := ← f.required "index" Document.nat?
    name := ← f.required "name" Document.text?
    header := ← f.required "header" Document.text?
    typeName := ← f.optional "type" none (Document.nullable? Document.text?) }

/-- Read the schema that a text writes. -/
def readList (text : List Char) : Except GridError (List ColumnSchema) :=
  match (Document.parse? text).bind (Document.list? ofDocument?) with
  | some schema => .ok schema
  | none => .error .json

end ColumnSchema

namespace Snapshot

/-- The snapshot of a column that a document holds. -/
def column? (d : Document) : Option (ColumnSnapshot Float32) := do
  let f ← d.fields? ["kind", "width", "properties"]
  return {
    id := ← f.required "kind" ColumnId.ofDocument?
    width := ← f.required "width" Document.float32?
    properties := ← f.optional "properties" .empty (Document.properties? 3) }

/-- The snapshot that a document holds. -/
def ofDocument? (d : Document) : Option (Snapshot Float32) := do
  let f ← d.fields? ["columnOrder", "columns", "fixedColumnCount", "fixedRowCount"]
  return {
    order := ← f.required "columnOrder" (Document.list? Document.nat?)
    columns := ← f.required "columns" (Document.list? column?)
    fixedColumns := ← f.required "fixedColumnCount" Document.nat?
    fixedRows := ← f.required "fixedRowCount" Document.nat? }

/-- Read the snapshot that a text writes. -/
def read (text : List Char) : Except GridError (Snapshot Float32) :=
  match (Document.parse? text).bind ofDocument? with
  | some s => .ok s
  | none => .error .json

end Snapshot

end DataGrid
