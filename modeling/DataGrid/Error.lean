import DataGrid.Column.Id

/-!
# Errors

What can go wrong while a grid is built or driven.  Things that happen in the normal course of an
interaction, such as a pointer outside every cell, are no errors.
-/

namespace DataGrid

/-- A cause of failure. -/
inductive GridError where
  /-- No column has this identity. -/
  | columnNotFound (column : ColumnId)
  /-- No feature has this name. -/
  | unknownFeature (name : String)
  /-- A document is no JSON, or not of the shape that was asked for. -/
  | json
  /-- A quoted field on this line is never closed. -/
  | unterminatedQuote (line : Nat)
  /-- A feature gave up, for a reason of its own. -/
  | other (reason : String)
deriving DecidableEq

/-- The text shown for an error. -/
def GridError.message : GridError → String
  | .columnNotFound c => "Column not found: " ++ c.describe
  | .unknownFeature name => "Invalid argument: unknown feature '" ++ name ++ "'"
  | .json => "JSON: malformed document"
  | .unterminatedQuote line => "CSV: unterminated quote on line " ++ toString line
  | .other reason => reason

end DataGrid
