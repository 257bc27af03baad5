import DataGrid.Layout

/-!
# What is on the screen

The columns and rows of a layout are numbered from zero, whatever they are (`numbered_columns`,
`numbered_rows`).  The synthetic columns come first, then the fixed columns, then a run of those that
scroll, and the run ends with the last column or at the edge of the viewport
(`exists_places_columns`).  Rows follow in the same way (`exists_places_rows`).
-/

namespace DataGrid

variable {α : Type}

/-- The slot of a column that is to be placed and the column that stands there. -/
def ColumnPlan.place (p : ColumnPlan α) : Slot × ColumnId := (p.slot, p.id)

/-- The slot of a column on the screen and the column that stands there. -/
def PlacedColumn.place (c : PlacedColumn α) : Slot × ColumnId := (c.slot, c.id)

/-- The band of a row on the screen and its place in the band. -/
def PlacedRow.place (r : PlacedRow α) : Band × Nat := (r.band, r.row)

namespace Layout

/-! ### Columns -/

section Columns

variable [Pixel α] {limit x : α} {index : Nat}

/-- The right edge of columns that begin at `x`. -/
def rightEdgeFrom (x : α) (columns : List (PlacedColumn α)) : α :=
  (columns.getLast?.map (·.right)).getD x

theorem rightEdgeFrom_cons (x : α) (c : PlacedColumn α) (columns : List (PlacedColumn α)) :
  rightEdgeFrom x (c :: columns) = rightEdgeFrom c.right columns
  := by
  rw [rightEdgeFrom, rightEdgeFrom, List.getLast?_cons]
  cases columns.getLast? <;> rfl

theorem index_placeColumns (limit : α) :
  ∀ (plans : List (ColumnPlan α)) (index : Nat) (x : α),
    (placeColumns limit index x plans).map (·.index)
      = List.range' index (placeColumns limit index x plans).length
  | [], _, _ => rfl
  | p :: rest, index, x => by
    rw [placeColumns]
    split
    · rfl
    · rw [List.map_cons, List.length_cons, List.range'_succ, index_placeColumns limit rest]

/-- Of columns that scroll the first ones are placed, and none is left out before the limit. -/
theorem exists_place_placeColumns (limit : α) :
  ∀ (plans : List (ColumnPlan α)) (index : Nat) (x : α),
    ∃ n ≤ plans.length,
      (placeColumns limit index x plans).map (·.place) = (plans.take n).map (·.place)
        ∧ (n < plans.length → limit ≤ rightEdgeFrom x (placeColumns limit index x plans))
  | [], _, _ => ⟨0, Nat.le_refl 0, rfl, fun h => absurd h (Nat.lt_irrefl 0)⟩
  | p :: rest, index, x => by
    rw [placeColumns]
    split
    case isTrue hstop => exact ⟨0, Nat.zero_le _, rfl, fun _ => hstop.2⟩
    case isFalse =>
      obtain ⟨n, hn, hplace, hlimit⟩ :=
        exists_place_placeColumns limit rest (index + 1) (x + p.width)
      refine ⟨n + 1, Nat.succ_le_succ hn, ?_, ?_⟩
      · rw [List.map_cons, hplace]
        rfl
      · intro hlt
        rw [rightEdgeFrom_cons]
        apply hlimit (Nat.lt_of_succ_lt_succ hlt)

/-- Columns that do not scroll are all placed, in front of the others. -/
theorem exists_place_placeColumns_append (limit : α) {standing : List (ColumnPlan α)}
    (scrolling : List (ColumnPlan α)) :
  ∀ (index : Nat) (x : α), (∀ p ∈ standing, p.scrolls = false) →
    ∃ n ≤ scrolling.length,
      (placeColumns limit index x (standing ++ scrolling)).map (·.place)
          = (standing ++ scrolling.take n).map (·.place)
        ∧ (n < scrolling.length →
          limit ≤ rightEdgeFrom x (placeColumns limit index x (standing ++ scrolling)))
  := by
  induction standing with
  | nil =>
    intro index x _
    apply exists_place_placeColumns
  | cons p rest ih =>
    intro index x hstanding
    obtain ⟨n, hn, hplace, hlimit⟩ := ih (index + 1) (x + p.width) fun q hq =>
      hstanding q (List.mem_cons_of_mem p hq)
    have hgoes : ¬ (p.scrolls = true ∧ limit ≤ x) := by
      rw [hstanding p List.mem_cons_self]
      simp
    rw [List.cons_append, placeColumns, if_neg hgoes]
    refine ⟨n, hn, ?_, ?_⟩
    · rw [List.map_cons, hplace]
      rfl
    · rw [rightEdgeFrom_cons]
      apply hlimit

/-- The synthetic columns that the settings show, each in its slot. -/
def syntheticPlaces (config : Config α) : List (Slot × ColumnId) :=
  (if config.showRowHandle then [(.rowHandle, .rowHandle)] else [])
    ++ (if config.showTree then [(.tree, .tree)] else [])

/-- A part of the shown list that begins at index `first`, each column in its slot. -/
def shownPlaces (first : Nat) (ids : List ColumnId) : List (Slot × ColumnId) :=
  (ids.zipIdx first).map fun (id, i) => (.shown i, id)

omit [Pixel α] in
theorem place_syntheticPlans (c : Columns α) (config : Config α) :
  (syntheticPlans c config).map (·.place) = syntheticPlaces config
  := by
  rw [syntheticPlans, syntheticPlaces, List.map_append]
  cases config.showRowHandle <;> cases config.showTree <;> rfl

theorem place_shownPlans (c : Columns α) (scrolls : Bool) (first : Nat) (ids : List ColumnId) :
  (shownPlans c scrolls first ids).map (·.place) = shownPlaces first ids
  := by
  rw [shownPlans, List.map_map]
  rfl

theorem take_shownPlans (c : Columns α) (scrolls : Bool) (first n : Nat) (ids : List ColumnId) :
  (shownPlans c scrolls first ids).take n = shownPlans c scrolls first (ids.take n)
  := by
  rw [shownPlans, shownPlans, ← List.map_take]
  congr 1
  apply List.ext_getElem?
  intro i
  rw [List.getElem?_take, List.getElem?_zipIdx, List.getElem?_zipIdx, List.getElem?_take]
  split <;> rfl

theorem slot_shownPlaces (first : Nat) (ids : List ColumnId) :
  (shownPlaces first ids).map Prod.fst = (List.range' first ids.length).map Slot.shown
  := by
  rw [shownPlaces, List.map_map, ← List.zipIdx_map_snd first ids, List.map_map]
  rfl

theorem id_shownPlaces (first : Nat) (ids : List ColumnId) :
  (shownPlaces first ids).map Prod.snd = ids
  := by
  rw [shownPlaces, List.map_map]
  apply List.zipIdx_map_fst

theorem scrolls_of_mem_shownPlans {c : Columns α} {scrolls : Bool} {first : Nat}
    {ids : List ColumnId} {p : ColumnPlan α} (h : p ∈ shownPlans c scrolls first ids) :
  p.scrolls = scrolls
  := by
  obtain ⟨_, _, rfl⟩ := List.mem_map.mp h
  rfl

omit [Pixel α] in
theorem scrolls_of_mem_syntheticPlans {c : Columns α} {config : Config α} {p : ColumnPlan α}
    (h : p ∈ syntheticPlans c config) :
  p.scrolls = false
  := by
  obtain h | h := List.mem_append.mp h <;> split at h
  · rw [List.mem_singleton.mp h]
  · cases h
  · rw [List.mem_singleton.mp h]
  · cases h

/-- All synthetic and fixed columns are on the screen, and of the others a run that begins where the
grid is scrolled to and leaves none out before the right edge of the viewport. -/
theorem exists_places_columns (c : Columns α) (config : Config α) (v : Viewport α)
    (rowCount : Nat) :
  let l := compute c config v rowCount
  let fixed := min config.fixedColumns c.shownCount
  let first := fixed + v.scrollLeft
  ∃ n ≤ c.shownCount - first,
    l.columns.map (·.place)
        = syntheticPlaces config ++ shownPlaces 0 (c.shown.take fixed)
            ++ shownPlaces first ((c.shown.drop first).take n)
      ∧ (n < c.shownCount - first → v.width ≤ l.rightEdge)
  := by
  intro l fixed first
  have hstanding : ∀ p ∈ syntheticPlans c config ++ shownPlans c false 0 (c.shown.take fixed),
      p.scrolls = false := by
    intro p hp
    obtain hsynthetic | hshown := List.mem_append.mp hp
    · apply scrolls_of_mem_syntheticPlans hsynthetic
    · apply scrolls_of_mem_shownPlans hshown
  obtain ⟨n, hn, hplaces, hlimit⟩ := exists_place_placeColumns_append v.width
    (shownPlans c true first (c.shown.drop first)) 0 Pixel.zero hstanding
  have hlength : (shownPlans c true first (c.shown.drop first)).length = c.shownCount - first := by
    rw [shownPlans, List.length_map, List.length_zipIdx, List.length_drop, Columns.shownCount]
  rw [hlength] at hn hlimit
  refine ⟨n, hn, ?_, hlimit⟩
  rw [List.map_append, List.map_append, place_syntheticPlans, place_shownPlans, take_shownPlans,
    place_shownPlans] at hplaces
  apply hplaces

/-- A column is placed by a plan for its slot. -/
theorem exists_plan_of_mem_placeColumns {limit : α} {c : PlacedColumn α} :
  ∀ {plans : List (ColumnPlan α)} {index : Nat} {x : α}, c ∈ placeColumns limit index x plans →
    ∃ p ∈ plans, p.slot = c.slot
  | [], _, _, h => by
    cases h
  | p :: rest, index, x, h => by
    rw [placeColumns] at h
    split at h
    case isTrue => cases h
    case isFalse =>
      obtain rfl | hrest := List.mem_cons.mp h
      · apply Exists.intro p ⟨List.mem_cons_self, rfl⟩
      · obtain ⟨q, hq, hslot⟩ := exists_plan_of_mem_placeColumns hrest
        apply Exists.intro q ⟨List.mem_cons_of_mem p hq, hslot⟩

omit [Pixel α] in
theorem not_shown_of_mem_syntheticPlans {c : Columns α} {config : Config α} {p : ColumnPlan α}
    (h : p ∈ syntheticPlans c config) :
  p.slot.shownIndex? = none
  := by
  obtain h | h := List.mem_append.mp h
  · split at h
    · obtain rfl := List.mem_singleton.mp h
      rfl
    · cases h
  · split at h
    · obtain rfl := List.mem_singleton.mp h
      rfl
    · cases h

theorem numbered_columns (c : Columns α) (config : Config α) (v : Viewport α) (rowCount : Nat) :
  let l := compute c config v rowCount
  l.columns.map (·.index) = List.range l.columns.length
  := by
  intro l
  rw [List.range_eq_range']
  apply index_placeColumns

end Columns

/-! ### Rows -/

section Rows

/-- The rows are numbered one after the other, from the number of the place where they begin. -/
def RowCursor.IsNumbered (start : RowCursor α) (rows : List (PlacedRow α)) : Prop :=
  rows.map (·.index) = List.range' start.index rows.length

section Below

variable [Add α] {start : RowCursor α} {rows rows' : List (PlacedRow α)}

theorem RowCursor.below_cons (start : RowCursor α) (r : PlacedRow α) (rows : List (PlacedRow α)) :
  start.below (r :: rows) = RowCursor.below ⟨r.index + 1, r.bottom⟩ rows
  := by
  rw [below, below, List.getLast?_cons]
  cases rows.getLast? <;> rfl

theorem RowCursor.below_append (start : RowCursor α) (rows rows' : List (PlacedRow α)) :
  start.below (rows ++ rows') = (start.below rows).below rows'
  := by
  induction rows generalizing start with
  | nil => rfl
  | cons r rest ih => rw [List.cons_append, below_cons, below_cons, ih]

theorem RowCursor.IsNumbered.index_below (h : start.IsNumbered rows) :
  (start.below rows).index = start.index + rows.length
  := by
  induction rows generalizing start with
  | nil => rfl
  | cons r rest ih =>
    rw [IsNumbered, List.map_cons, List.length_cons, List.range'_succ] at h
    obtain ⟨hr, hrest⟩ := List.cons.inj h
    have hnext : RowCursor.IsNumbered ⟨r.index + 1, r.bottom⟩ rest := by
      rw [IsNumbered, hrest, hr]
    rw [below_cons, ih hnext, List.length_cons]
    simp only [hr]
    omega

theorem RowCursor.IsNumbered.append (h : start.IsNumbered rows)
    (h' : (start.below rows).IsNumbered rows') :
  start.IsNumbered (rows ++ rows')
  := by
  rw [IsNumbered, h.index_below] at h'
  rw [IsNumbered, List.map_append, h, h', List.length_append, List.range'_append_1]

theorem isNumbered_placeRows (band : Band) (height : α) :
  ∀ (count first : Nat) (start : RowCursor α),
    start.IsNumbered (placeRows band height count first start)
  | 0, _, _ => rfl
  | count + 1, first, start => by
    have hrest := isNumbered_placeRows band height count (first + 1)
      ⟨start.index + 1, start.y + height⟩
    rw [RowCursor.IsNumbered] at hrest
    rw [placeRows, RowCursor.IsNumbered, List.map_cons, hrest, List.length_cons,
      List.range'_succ]

theorem place_placeRows (band : Band) (height : α) :
  ∀ (count first : Nat) (start : RowCursor α),
    (placeRows band height count first start).map (·.place)
      = (List.range' first count).map (band, ·)
  | 0, _, _ => rfl
  | count + 1, first, start => by
    rw [placeRows, List.map_cons, place_placeRows band height count, List.range'_succ]
    rfl

end Below

variable [Pixel α]

theorem isNumbered_placeRowsTo (limit : α) (band : Band) (height : α) :
  ∀ (count first : Nat) (start : RowCursor α),
    start.IsNumbered (placeRowsTo limit band height count first start)
  | 0, _, _ => rfl
  | count + 1, first, start => by
    have hrest := isNumbered_placeRowsTo limit band height count (first + 1)
      ⟨start.index + 1, start.y + height⟩
    rw [RowCursor.IsNumbered] at hrest
    rw [placeRowsTo]
    split
    · rfl
    · rw [RowCursor.IsNumbered, List.map_cons, hrest, List.length_cons, List.range'_succ]

/-- Of rows that scroll the first ones are placed, and none is left out before the limit. -/
theorem exists_place_placeRowsTo (limit : α) (band : Band) (height : α) :
  ∀ (count first : Nat) (start : RowCursor α),
    ∃ n ≤ count,
      (placeRowsTo limit band height count first start).map (·.place)
          = (List.range' first n).map (band, ·)
        ∧ (n < count →
          limit ≤ (start.below (placeRowsTo limit band height count first start)).y)
  | 0, _, _ => ⟨0, Nat.le_refl 0, rfl, fun h => absurd h (Nat.lt_irrefl 0)⟩
  | count + 1, first, start => by
    rw [placeRowsTo]
    split
    case isTrue hstop => exact ⟨0, Nat.zero_le _, rfl, fun _ => hstop⟩
    case isFalse =>
      obtain ⟨n, hn, hplace, hlimit⟩ := exists_place_placeRowsTo limit band height count
        (first + 1) ⟨start.index + 1, start.y + height⟩
      refine ⟨n + 1, Nat.succ_le_succ hn, ?_, ?_⟩
      · rw [List.map_cons, hplace, List.range'_succ]
        rfl
      · intro hlt
        rw [RowCursor.below_cons]
        apply hlimit (Nat.lt_of_succ_lt_succ hlt)

/-- The rows above the data, each in its band. -/
def topPlaces (config : Config α) : List (Band × Nat) :=
  (List.range config.headerRows).map (.header, ·)
    ++ (if config.showFilterRow then [(.filter, 0)] else [])

theorem place_standingRows (config : Config α) (rowCount : Nat) :
  (standingRows config rowCount).map (·.place)
    = topPlaces config ++ (List.range (min config.fixedRows rowCount)).map (.data, ·)
  := by
  simp only [standingRows, topPlaces, List.map_append, place_placeRows, List.range_eq_range']
  cases config.showFilterRow <;> rfl

theorem isNumbered_standingRows (config : Config α) (rowCount : Nat) :
  RowCursor.IsNumbered ⟨0, Pixel.zero⟩ (standingRows config rowCount)
  := by
  apply RowCursor.IsNumbered.append
  · apply RowCursor.IsNumbered.append
    · apply isNumbered_placeRows
    · apply isNumbered_placeRows
  · rw [RowCursor.below_append]
    apply isNumbered_placeRows

theorem bottomEdge_eq (l : Layout α) :
  l.bottomEdge = (RowCursor.below ⟨0, Pixel.zero⟩ l.rows).y
  := by
  rw [bottomEdge, RowCursor.below]
  cases l.rows.getLast? <;> rfl

/-- All header, filter and fixed rows are on the screen, and of the others a run that begins where
the grid is scrolled to and leaves none out before the lower edge of the viewport. -/
theorem exists_places_rows (c : Columns α) (config : Config α) (v : Viewport α) (rowCount : Nat) :
  let l := compute c config v rowCount
  let fixed := min config.fixedRows rowCount
  let first := fixed + v.scrollTop
  ∃ n ≤ rowCount - first,
    l.rows.map (·.place)
        = topPlaces config ++ (List.range fixed ++ List.range' first n).map (.data, ·)
      ∧ (n < rowCount - first → v.height ≤ l.bottomEdge)
  := by
  intro l fixed first
  obtain ⟨n, hn, hplaces, hlimit⟩ := exists_place_placeRowsTo v.height .data config.rowHeight
    (rowCount - first) first (RowCursor.below ⟨0, Pixel.zero⟩ (standingRows config rowCount))
  refine ⟨n, hn, ?_, ?_⟩
  · change (computeRows config v rowCount).map _ = _
    rw [computeRows, List.map_append, place_standingRows, hplaces, List.append_assoc,
      ← List.map_append]
  · intro hlt
    rw [bottomEdge_eq]
    change v.height ≤ (RowCursor.below _ (computeRows config v rowCount)).y
    rw [computeRows, RowCursor.below_append]
    apply hlimit hlt

theorem numbered_rows (c : Columns α) (config : Config α) (v : Viewport α) (rowCount : Nat) :
  let l := compute c config v rowCount
  l.rows.map (·.index) = List.range l.rows.length
  := by
  intro l
  rw [List.range_eq_range']
  apply (isNumbered_standingRows config rowCount).append
  apply isNumbered_placeRowsTo

end Rows

end Layout

end DataGrid
