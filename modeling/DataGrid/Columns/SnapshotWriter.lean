import DataGrid.Columns.Snapshot
import DataGrid.Json.Writer

/-!
# Writing snapshots

The JSON form of a snapshot.
-/

namespace DataGrid

/-- A column by its kind and, for a data column, its index. -/
def ColumnId.toJson : ColumnId → Json
  | .rowHandle => .object [("kind", .text "rowHandle")]
  | .tree => .object [("kind", .text "treeIndent")]
  | .data i => .object [("kind", .text "data"), ("index", .ofNat i)]

namespace Snapshot

/-- The JSON form of what is kept of a column; empty properties are left out. -/
def columnToJson (c : ColumnSnapshot Float32) : Json :=
  .object ([("kind", c.id.toJson), ("width", Json.ofFloat32 c.width)]
    ++ if c.properties.isEmpty then [] else [("properties", .ofProperties c.properties)])

/-- The JSON form of a snapshot. -/
def toJson (s : Snapshot Float32) : Json :=
  .object
    [("columnOrder", .array (s.order.map Json.ofNat)),
     ("columns", .array (s.columns.map columnToJson)),
     ("fixedColumnCount", .ofNat s.fixedColumns),
     ("fixedRowCount", .ofNat s.fixedRows)]

end Snapshot

end DataGrid
