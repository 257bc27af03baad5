/-!
# Version
-/

namespace DataGrid

/-- The version of this library. -/
def version : String := "0.1.0"

end DataGrid
