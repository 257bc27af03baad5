/-!
# Schemas

A schema lists the columns of a table, each with its place in the table, a name and the text of
its header.
-/

namespace DataGrid

/-- One column of a schema. -/
structure ColumnSchema where
  index : Nat
  name : String
  header : String
  typeName : Option String

namespace ColumnSchema

/-- A column whose header is its name. -/
def ofName (index : Nat) (name : String) : ColumnSchema := ⟨index, name, name, none⟩

/-- A schema with one column for each name, in order. -/
def ofNames (names : List String) : List ColumnSchema :=
  names.zipIdx.map fun (name, i) => ofName i name

end ColumnSchema

end DataGrid
