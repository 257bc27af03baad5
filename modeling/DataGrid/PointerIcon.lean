/-!
# Pointer icons
-/

namespace DataGrid

/-- The shape of the pointer. -/
inductive PointerIcon where
  | default
  | pointer
  | columnResize
  | rowResize
  | grab
  | grabbing
deriving DecidableEq

/-- The name of the shape of the pointer. -/
def PointerIcon.name : PointerIcon → String
  | .default => "default"
  | .pointer => "pointer"
  | .columnResize => "col-resize"
  | .rowResize => "row-resize"
  | .grab => "grab"
  | .grabbing => "grabbing"

end DataGrid
