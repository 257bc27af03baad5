import DataGrid.Error
import DataGrid.Schema
import DataGrid.Table
import DataGrid.Text.Lines

/-!
# Delimited text

A document of comma- or tab-separated fields is a `Sheet`: its first line that is not blank names
the columns, and every later one is a row.  A field may be quoted, in whole or in part; inside
quotes a separator is text and a double quote stands for one quote.
-/

namespace DataGrid

/-- What separates the fields of a line. -/
inductive Delimiter where
  | comma
  | tab
deriving DecidableEq

namespace Delimiter

def char : Delimiter → Char
  | .comma => ','
  | .tab => '\t'

/-- The delimiter that the name of a file suggests. -/
def ofPath (path : String) : Delimiter :=
  if path.endsWith ".tsv" || path.endsWith ".tab" then .tab else .comma

end Delimiter

namespace Delimited

/-- The fields of a line of which the first has already been read in part, the latest character
first; `none` if a quote is never closed. -/
def fieldsFrom (sep : Char) : (quoted : Bool) → (read : List Char) → List Char →
    Option (List (List Char))
  | false, read, [] => some [read.reverse]
  | true, _, [] => none
  | true, read, '"' :: '"' :: rest => fieldsFrom sep true ('"' :: read) rest
  | true, read, c :: rest =>
    if c = '"' then fieldsFrom sep false read rest else fieldsFrom sep true (c :: read) rest
  | false, read, c :: rest =>
    if c = '"' then fieldsFrom sep true read rest
    else if c = sep then (fieldsFrom sep false [] rest).map (read.reverse :: ·)
    else fieldsFrom sep false (c :: read) rest

/-- The fields of a line; `none` if a quote is never closed. -/
def fields? (sep : Char) (line : List Char) : Option (List (List Char)) :=
  fieldsFrom sep false [] line

/-- The lines of a text that are not blank, each with its number, counted from one. -/
def numberedLines (text : List Char) : List (List Char × Nat) :=
  ((Text.lines text).zipIdx 1).filter fun l => !l.1.all Text.isBlank

/-- The fields of a numbered line. -/
def record (sep : Char) (line : List Char × Nat) : Except GridError (List String) :=
  match fields? sep line.1 with
  | some fields => .ok (fields.map String.ofList)
  | none => .error (.unterminatedQuote line.2)

end Delimited

/-- A table together with the schema of its columns. -/
structure Sheet where
  schema : List ColumnSchema
  table : Table

namespace Sheet

/-- The sheet whose first record names the columns. -/
def ofRecords (records : List (List String)) : Sheet :=
  let schema := ColumnSchema.ofNames (records.headD [])
  let row (fields : List String) :=
    Table.padTo schema.length (fields.map CellValue.parse).toArray
  ⟨schema, Table.ofRows (records.tail.map row).toArray⟩

/-- Read a document. -/
def parse (d : Delimiter) (text : List Char) : Except GridError Sheet :=
  ((Delimited.numberedLines text).mapM (Delimited.record d.char)).map ofRecords

end Sheet

end DataGrid
