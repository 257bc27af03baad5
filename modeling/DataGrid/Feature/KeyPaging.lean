import DataGrid.Feature.Step

/-!
# Paging with keys

Page keys scroll by as many rows as there are on the screen, and the home and end keys to the first
and the last rows.  With shift they do the same for columns.
-/

namespace DataGrid.KeyPaging

variable {α σ : Type} [Pixel α] [DataSource σ]

omit [DataSource σ] in
/-- The number of scrolling columns on the screen, but at least one. -/
def columnPage (m : Model α σ) : Nat :=
  let scrolling := m.layout.shownColumns.filter fun c =>
    c.slot.shownIndex?.any fun i => m.fixedColumns ≤ i
  max scrolling.length 1

omit [Pixel α] [DataSource σ] in
/-- The number of scrolling rows on the screen, but at least one. -/
def rowPage (m : Model α σ) : Nat :=
  let scrolling := m.layout.dataRows.filter fun r => m.config.fixedRows ≤ r.row
  max scrolling.length 1

/-- The columns after a key, if it is one of the keys for paging. -/
def pageColumns? (m : Model α σ) : String → Option (Model α σ)
  | "PageDown" => some (m.scrollBy (columnPage m) 0)
  | "PageUp" => some (m.scrollBy (-columnPage m) 0)
  | "Home" => some (m.scrollTo 0 m.viewport.scrollTop)
  | "End" => some (m.scrollTo m.limits.left m.viewport.scrollTop)
  | _ => none

/-- The rows after a key, if it is one of the keys for paging. -/
def pageRows? (m : Model α σ) : String → Option (Model α σ)
  | "PageDown" => some (m.scrollBy 0 (rowPage m))
  | "PageUp" => some (m.scrollBy 0 (-rowPage m))
  | "Home" => some (m.scrollTo m.viewport.scrollLeft 0)
  | "End" => some (m.scrollTo m.viewport.scrollLeft m.limits.top)
  | _ => none

/-- Answer an input. -/
def handle (input : Input α) (t : GridTurn α σ) : Step Unit (Model α σ) :=
  match input with
  | .key .down e =>
    match if e.modifiers.shift then pageColumns? t.model e.key else pageRows? t.model e.key with
    | some m => .stop () { t with model := m }
    | none => .pass () t
  | _ => .pass () t

end DataGrid.KeyPaging
