import Mathlib
import DataGrid.Proofs.Feature.Gesture
import DataGrid.Proofs.Layout.InView
import DataGrid.Proofs.Model.Scrolling

/-!
# Bringing a cell into view

A cell is brought into view by two loops, one for the columns and one for the rows, that scroll by
one until the cell is in view or nothing is left to be scrolled.  The loops come to an end
(`CellSelection.reveals_reveal`), and where they end is the nearest place at which the cell is in
view (`CellSelection.Reveals.isLeastScroll`).
-/

namespace DataGrid

/-! ### Loops -/

/-- A loop that goes on with what `next` gives, until it gives nothing. -/
inductive Loops {β : Type} (next : β → Option β) : β → β → Prop where
  | done {m : β} (ends : next m = none) : Loops next m m
  | step {m m' m'' : β} (goesOn : next m = some m') (rest : Loops next m' m'') : Loops next m m''

/-- One turn of a loop that moves on until the first item on the screen is the one at `target`, or
that one is in view. -/
def towards {β : Type} (first : β → Nat) (looks : β → Bool) (next : β → Option β) (target : Nat)
    (m : β) : Option β :=
  if first m < target ∧ looks m = false then next m else none

namespace Loops

variable {β : Type} {next : β → Option β} {m m' : β}

/-- A loop that counts down to its target comes to its end before the count does. -/
theorem of_countdown {loop : Nat → β → β} {first : β → Nat} {looks : β → Bool} {target : Nat}
    {I : β → Prop} (zero : ∀ m, loop 0 m = m)
    (succ : ∀ left m, loop (left + 1) m = if looks m then m else (next m).elim m (loop left))
    (hnext : ∀ {m m'}, I m → next m = some m' → I m' ∧ first m' = first m + 1) :
  ∀ {left : Nat} {m : β}, I m → left = target - first m →
    Loops (towards first looks next target) m (loop left m)
  | 0, m, _, hleft => by
    rw [zero]
    apply done
    apply if_neg
    rintro ⟨hbefore, -⟩
    omega
  | left + 1, m, hI, hleft => by
    have hbefore : first m < target := by omega
    rw [succ]
    cases hlooks : looks m with
    | true =>
      rw [if_pos rfl]
      apply done
      apply if_neg
      rintro ⟨-, hnot⟩
      cases hlooks.symm.trans hnot
    | false =>
      have hturn : towards first looks next target m = next m := if_pos ⟨hbefore, hlooks⟩
      rw [if_neg Bool.false_ne_true]
      cases hgoesOn : next m with
      | none => exact done (hturn.trans hgoesOn)
      | some m' =>
        obtain ⟨hI', hfirst⟩ := hnext hI hgoesOn
        apply step (hturn.trans hgoesOn)
        apply of_countdown zero succ hnext hI'
        omega

/-- A loop that moves on by one with each turn, as long as it is not at a good place, ends at the
first good place. -/
theorem first_good (I : β → Prop) (place : β → Nat) (good : Nat → Prop) (h : Loops next m m')
    (hI : I m) (hdone : ∀ m, I m → next m = none → good (place m))
    (hstep : ∀ m m', I m → next m = some m' →
      I m' ∧ place m' = place m + 1 ∧ ¬ good (place m)) :
  I m' ∧ place m ≤ place m' ∧ good (place m') ∧ ∀ j, place m ≤ j → j < place m' → ¬ good j
  := by
  induction h with
  | done ends =>
    refine ⟨hI, Nat.le_refl _, hdone _ hI ends, ?_⟩
    intro j hj hlt
    omega
  | step goesOn rest ih =>
    obtain ⟨hI', hplace, hbad⟩ := hstep _ _ hI goesOn
    obtain ⟨hI'', hle, hgood, hfirst⟩ := ih hI'
    refine ⟨hI'', by omega, hgood, ?_⟩
    intro j hj hlt
    obtain rfl | hbehind := Nat.eq_or_lt_of_le hj
    · exact hbad
    · exact hfirst j (by omega) hlt

end Loops

/-! ### Loops that scroll -/

/-- Scrolling on by one along an axis, with `next`, towards an item: `place` says how many items are
scrolled out and `first` which one is the first that is not, `looks` says whether the item ends
within the screen, and `I` holds wherever this leads. -/
structure ScrollsTowards {β : Type} (edge : Nat → Rat) (fixed count : Nat) (base size : Rat)
    (limit target : Nat) (first place : β → Nat) (looks : β → Bool) (next : β → Option β)
    (I : β → Prop) : Prop where
  monotone : Monotone edge
  isLimit : Axis.IsLimit edge fixed count (size - (base + edge fixed)) limit
  target_lt : target < count
  first_eq : ∀ {m}, I m → first m = fixed + place m
  le_limit : ∀ {m}, I m → place m ≤ limit
  inView_iff : ∀ {m}, I m → (Axis.InView edge fixed base size target (place m)
    ↔ target = fixed + place m ∨ looks m = true)
  limit_le : ∀ {m}, I m → next m = none → limit ≤ place m
  succ : ∀ {m m'}, I m → next m = some m' → I m' ∧ place m' = place m + 1

namespace ScrollsTowards

variable {β : Type} {edge : Nat → Rat} {fixed count limit target : Nat} {base size : Rat}
  {first place : β → Nat} {looks : β → Bool} {next : β → Option β} {I : β → Prop} {m m' : β}
  (h : ScrollsTowards edge fixed count base size limit target first place looks next I)

include h

/-- Where the loop ends the item is in view. -/
theorem inView_of_ends (hI : I m) (hfirst : first m ≤ target)
    (hends : towards first looks next target m = none) :
  Axis.InView edge fixed base size target (place m)
  := by
  have heq := h.first_eq hI
  obtain hat | hbefore := Nat.eq_or_lt_of_le hfirst
  · exact (h.inView_iff hI).mpr (.inl (hat.symm.trans heq))
  · cases hlooks : looks m with
    | true => exact (h.inView_iff hI).mpr (.inr hlooks)
    | false =>
      have hnone : next m = none := (if_pos ⟨hbefore, hlooks⟩).symm.trans hends
      have hlimit : place m = limit := Nat.le_antisymm (h.le_limit hI) (h.limit_le hI hnone)
      rw [heq, hlimit] at hfirst
      rw [hlimit]
      exact h.isLimit.inView h.monotone hfirst h.target_lt

/-- Where the loop goes on the item is not in view, and one more item is scrolled out. -/
theorem of_goesOn (hI : I m) (hgoesOn : towards first looks next target m = some m') :
  (I m' ∧ first m' ≤ target) ∧ place m' = place m + 1
    ∧ ¬ Axis.InView edge fixed base size target (place m)
  := by
  rw [towards] at hgoesOn
  split at hgoesOn
  case isTrue hturn =>
    have heq := h.first_eq hI
    obtain ⟨hI', hplace⟩ := h.succ hI hgoesOn
    have heq' := h.first_eq hI'
    refine ⟨⟨hI', by omega⟩, hplace, ?_⟩
    rw [h.inView_iff hI, hturn.2, ← heq]
    rintro (hat | ⟨⟨⟩⟩)
    exact absurd hat (Nat.ne_of_gt hturn.1)
  case isFalse => cases hgoesOn

/-- The loop ends at the nearest place at which the item is in view. -/
theorem isNearest (hloop : Loops (towards first looks next target) m m') (hI : I m)
    (hfirst : first m ≤ target) :
  I m' ∧ Axis.IsNearest (Axis.InView edge fixed base size target) limit (place m) (place m')
  := by
  obtain ⟨⟨hI', -⟩, hstart, hview, hbad⟩ := hloop.first_good (fun m => I m ∧ first m ≤ target)
    place (Axis.InView edge fixed base size target) ⟨hI, hfirst⟩
    (fun m hm hends => h.inView_of_ends hm.1 hm.2 hends)
    (fun m m' hm hgoesOn => h.of_goesOn hm.1 hgoesOn)
  rw [h.first_eq hI] at hfirst
  exact ⟨hI', Axis.isNearest_of_first h.monotone hfirst (h.le_limit hI') hstart hview hbad⟩

end ScrollsTowards

namespace CellSelection

section Loops

variable {α σ : Type} [Pixel α] [DataSource σ] {m m' : Model α σ}

/-- One turn of the loop for a column. -/
def columnTurn? (column : Nat) : Model α σ → Option (Model α σ) :=
  towards (fun m => m.fixedColumns + m.viewport.scrollLeft) (fun m => isColumnInView m column)
    (fun m => m.scrollBy? 1 0) column

/-- One turn of the loop for a row. -/
def rowTurn? (row : Nat) : Model α σ → Option (Model α σ) :=
  towards (fun m => m.config.fixedRows + m.viewport.scrollTop) (fun m => isRowInView m row)
    (fun m => m.scrollBy? 0 1) row

/-- A column is brought into view: a fixed one is, one that is scrolled out becomes the first one,
and for any other one the loop is run to its end. -/
def RevealsColumn (m : Model α σ) (column : Nat) (m' : Model α σ) : Prop :=
  if column < m.fixedColumns then m' = m
  else if column < m.fixedColumns + m.viewport.scrollLeft then
    m' = m.scrollTo (column - m.fixedColumns) m.viewport.scrollTop
  else Loops (columnTurn? column) m m'

/-- A row is brought into view in the same way. -/
def RevealsRow (m : Model α σ) (row : Nat) (m' : Model α σ) : Prop :=
  if row < m.config.fixedRows then m' = m
  else if row < m.config.fixedRows + m.viewport.scrollTop then
    m' = m.scrollTo m.viewport.scrollLeft (row - m.config.fixedRows)
  else Loops (rowTurn? row) m m'

/-- A cell is brought into view, its column first. -/
def Reveals (m : Model α σ) (cell : CellPlace) (m' : Model α σ) : Prop :=
  ∃ between, RevealsColumn m cell.column between ∧ RevealsRow between cell.row m'

/-- A step of one, to the right or down, leads to the next place. -/
theorem place_of_scrollBy? (hm : m.IsCoherent) (columns rows : Nat) (hone : columns + rows = 1)
    (h : m.scrollBy? columns rows = some m') :
  m'.viewport.scrollLeft = m.viewport.scrollLeft + columns
    ∧ m'.viewport.scrollTop = m.viewport.scrollTop + rows
  := by
  have hleftLimit : m.viewport.scrollLeft ≤ m.limits.left := hm.left_le
  have htopLimit : m.viewport.scrollTop ≤ m.limits.top := hm.top_le
  obtain ⟨-, hleft, htop, hapart⟩ := Model.viewport_scrollBy? h
  rw [Viewport.scrolledApart, Bool.or_eq_true, decide_eq_true_eq, decide_eq_true_eq] at hapart
  rw [Viewport.stepBy] at hleft htop
  omega

theorem revealColumnBy_succ (column left : Nat) (m : Model α σ) :
  revealColumnBy column (left + 1) m
    = if isColumnInView m column then m else (m.scrollBy? 1 0).elim m (revealColumnBy column left)
  := by
  rw [revealColumnBy]
  cases m.scrollBy? 1 0 <;> rfl

theorem revealRowBy_succ (row left : Nat) (m : Model α σ) :
  revealRowBy row (left + 1) m
    = if isRowInView m row then m else (m.scrollBy? 0 1).elim m (revealRowBy row left)
  := by
  rw [revealRowBy]
  cases m.scrollBy? 0 1 <;> rfl

theorem revealsColumn_revealColumn (hm : m.IsCoherent) (column : Nat) :
  RevealsColumn m column (revealColumn m column)
  := by
  rw [RevealsColumn, revealColumn]
  split
  · rfl
  · split
    · rfl
    · apply Loops.of_countdown (I := Model.IsCoherent) (fun _ => rfl) (revealColumnBy_succ column) _
        hm rfl
      intro m m' hm hnext
      refine ⟨(Model.tracks_scrollBy? hnext).isCoherent hm, ?_⟩
      rw [(place_of_scrollBy? hm 1 0 rfl hnext).1,
        (Model.Scrolls.of_scrollBy? hnext).fixedColumns_eq, Nat.add_assoc]

theorem revealsRow_revealRow (hm : m.IsCoherent) (row : Nat) :
  RevealsRow m row (revealRow m row)
  := by
  rw [RevealsRow, revealRow]
  split
  · rfl
  · split
    · rfl
    · apply Loops.of_countdown (I := Model.IsCoherent) (fun _ => rfl) (revealRowBy_succ row) _
        hm rfl
      intro m m' hm hnext
      refine ⟨(Model.tracks_scrollBy? hnext).isCoherent hm, ?_⟩
      rw [(place_of_scrollBy? hm 0 1 rfl hnext).2, (Model.Scrolls.of_scrollBy? hnext).same.2.1,
        Nat.add_assoc]

/-- Both loops come to their ends. -/
theorem reveals_reveal (hm : m.IsCoherent) (cell : CellPlace) :
  Reveals m cell (reveal m cell)
  := by
  refine ⟨_, revealsColumn_revealColumn hm cell.column, revealsRow_revealRow ?_ cell.row⟩
  exact (scrolls_revealColumn m cell.column).tracks.isCoherent hm

end Loops

/-! ### The nearest place -/

section Nearest

variable {σ : Type} [DataSource σ] {m m' : Model Rat σ} {column row : Nat}

/-- The column is in view along its axis if it is the first one or ends on the screen. -/
theorem inView_column_iff (column : Nat) (hm : m.IsCoherent) (hwidths : m.columns.ShowsWidths)
    (hfixed : m.fixedColumns ≤ column) (hcolumn : column < m.columns.shownCount) :
  Axis.InView m.columns.widthBefore m.fixedColumns (leadingWidth m.columns m.config)
      m.viewport.width column m.viewport.scrollLeft
    ↔ column = m.fixedColumns + m.viewport.scrollLeft ∨ isColumnInView m column = true
  := by
  have hview := Layout.columnInView_iff hwidths m.config m.viewport m.rowCount
    m.viewport.scrollLeft hfixed hcolumn
  rw [isColumnInView, hm.layout_eq, Layout.any_bySlot?_iff]
  exact hview.symm

/-- The row is in view along its axis if it is the first one or ends on the screen. -/
theorem inView_row_iff (row : Nat) (hm : m.IsCoherent) (hheight : 0 < m.config.rowHeight)
    (hfixed : min m.config.fixedRows m.rowCount ≤ row) (hrow : row < m.rowCount) :
  Axis.InView (fun i => i * m.config.rowHeight) (min m.config.fixedRows m.rowCount)
      m.config.headerHeight m.viewport.height row m.viewport.scrollTop
    ↔ row = min m.config.fixedRows m.rowCount + m.viewport.scrollTop ∨ isRowInView m row = true
  := by
  have hview := Layout.rowInView_iff hheight m.columns m.viewport m.viewport.scrollTop hfixed hrow
  rw [isRowInView, hm.layout_eq, Layout.any_byRow?_iff]
  exact hview.symm

/-- The loop for a column scrolls towards it. -/
theorem scrollsTowards_column (hwidths : m.columns.ShowsWidths) (hfixed : m.fixedColumns ≤ column)
    (hcolumn : column < m.columns.shownCount) :
  ScrollsTowards m.columns.widthBefore m.fixedColumns m.columns.shownCount
    (leadingWidth m.columns m.config) m.viewport.width m.limits.left column
    (fun m => m.fixedColumns + m.viewport.scrollLeft) (fun m => m.viewport.scrollLeft)
    (fun m => isColumnInView m column) (fun m => m.scrollBy? 1 0)
    (fun m' => m.Scrolls m' ∧ m'.IsCoherent ∧ m'.viewport.scrollTop = m.viewport.scrollTop)
  := by
  constructor
  case monotone => exact hwidths.monotone_widthBefore
  case isLimit =>
    exact ScrollLimits.isLimit_computeLeft hwidths m.viewport (Nat.lt_of_le_of_lt hfixed hcolumn)
  case target_lt => exact hcolumn
  case first_eq =>
    rintro m' ⟨hscrolls, -, -⟩
    rw [hscrolls.fixedColumns_eq]
  case le_limit =>
    rintro m' ⟨hscrolls, hm', -⟩
    rw [← hscrolls.limits_eq]
    exact hm'.left_le
  case inView_iff =>
    rintro m' ⟨hscrolls, hm', -⟩
    obtain ⟨hcolumns, hconfig, -, hwidth, -⟩ := hscrolls.same
    have hview := inView_column_iff column hm' (hcolumns ▸ hwidths)
      (hscrolls.fixedColumns_eq ▸ hfixed) (hcolumns ▸ hcolumn)
    rw [hscrolls.fixedColumns_eq, hcolumns, hconfig, hwidth] at hview
    exact hview
  case limit_le =>
    rintro m' ⟨hscrolls, -, -⟩ hnone
    have hat := (Model.viewport_of_scrollBy?_eq_none hnone).1
    rw [Viewport.stepBy, hscrolls.limits_eq] at hat
    omega
  case succ =>
    rintro m' m'' ⟨hscrolls, hm', htop⟩ hnext
    obtain ⟨hleft', htop'⟩ := place_of_scrollBy? hm' 1 0 rfl hnext
    exact ⟨⟨hscrolls.trans (Model.Scrolls.of_scrollBy? hnext),
      (Model.tracks_scrollBy? hnext).isCoherent hm', htop'.trans htop⟩, hleft'⟩

/-- The loop for a row scrolls towards it. -/
theorem scrollsTowards_row (hheight : 0 < m.config.rowHeight)
    (hfixed : min m.config.fixedRows m.rowCount ≤ row) (hrow : row < m.rowCount) :
  ScrollsTowards (fun i => i * m.config.rowHeight) (min m.config.fixedRows m.rowCount) m.rowCount
    m.config.headerHeight m.viewport.height m.limits.top row
    (fun m => m.config.fixedRows + m.viewport.scrollTop) (fun m => m.viewport.scrollTop)
    (fun m => isRowInView m row) (fun m => m.scrollBy? 0 1)
    (fun m' => m.Scrolls m' ∧ m'.IsCoherent ∧ m'.viewport.scrollLeft = m.viewport.scrollLeft)
  := by
  constructor
  case monotone => exact Layout.monotone_rowEdge (le_of_lt hheight)
  case isLimit =>
    exact ScrollLimits.isLimit_computeTop hheight m.viewport (Nat.lt_of_le_of_lt hfixed hrow)
  case target_lt => exact hrow
  case first_eq =>
    rintro m' ⟨hscrolls, -, -⟩
    rw [hscrolls.same.2.1]
    omega
  case le_limit =>
    rintro m' ⟨hscrolls, hm', -⟩
    rw [← hscrolls.limits_eq]
    exact hm'.top_le
  case inView_iff =>
    rintro m' ⟨hscrolls, hm', -⟩
    obtain ⟨-, hconfig, -, -, hheight'⟩ := hscrolls.same
    have hview := inView_row_iff row hm' (hconfig ▸ hheight)
      (hconfig ▸ hscrolls.rowCount_eq ▸ hfixed) (hscrolls.rowCount_eq ▸ hrow)
    rw [hscrolls.rowCount_eq, hconfig, hheight'] at hview
    exact hview
  case limit_le =>
    rintro m' ⟨hscrolls, -, -⟩ hnone
    have hat := (Model.viewport_of_scrollBy?_eq_none hnone).2
    rw [Viewport.stepBy, hscrolls.limits_eq] at hat
    omega
  case succ =>
    rintro m' m'' ⟨hscrolls, hm', hleft⟩ hnext
    obtain ⟨hleft', htop'⟩ := place_of_scrollBy? hm' 0 1 rfl hnext
    exact ⟨⟨hscrolls.trans (Model.Scrolls.of_scrollBy? hnext),
      (Model.tracks_scrollBy? hnext).isCoherent hm', hleft'.trans hleft⟩, htop'⟩

/-- A column that is brought into view ends at the nearest place at which it is, and a fixed one
moves nothing. -/
theorem RevealsColumn.isNearest (h : RevealsColumn m column m') (hm : m.IsCoherent)
    (hwidths : m.columns.ShowsWidths) (hcolumn : column < m.columns.shownCount) :
  (m.Scrolls m' ∧ m'.IsCoherent ∧ m'.viewport.scrollTop = m.viewport.scrollTop)
    ∧ (column < m.fixedColumns → m'.viewport.scrollLeft = m.viewport.scrollLeft)
    ∧ (m.fixedColumns ≤ column → Axis.IsNearest
        (Axis.InView m.columns.widthBefore m.fixedColumns (leadingWidth m.columns m.config)
          m.viewport.width column)
        m.limits.left m.viewport.scrollLeft m'.viewport.scrollLeft)
  := by
  have hleftLimit : m.viewport.scrollLeft ≤ m.limits.left := hm.left_le
  have hstart : m.Scrolls m ∧ m.IsCoherent ∧ m.viewport.scrollTop = m.viewport.scrollTop :=
    ⟨.refl m, hm, rfl⟩
  rw [RevealsColumn] at h
  split at h
  case isTrue hfixed =>
    rw [h]
    exact ⟨hstart, fun _ => rfl, fun hnot => absurd hfixed (Nat.not_lt.mpr hnot)⟩
  case isFalse hfixed =>
    have hfixed := Nat.not_lt.mp hfixed
    split at h
    case isTrue hfirst =>
      have hviewport : m'.viewport = { m.viewport with scrollLeft := column - m.fixedColumns } := by
        rw [h]
        exact Model.viewport_scrollTo (by omega) hm.top_le
      have hscrolls : m.Scrolls m' := h ▸ Model.Scrolls.scrollTo m _ _
      rw [hviewport]
      refine ⟨⟨hscrolls, hscrolls.tracks.isCoherent hm, rfl⟩, ?_, ?_⟩
      · intro hnot
        exact absurd hnot (Nat.not_lt.mpr hfixed)
      · intro _
        exact Axis.isNearest_of_scrolledOut hfixed hfirst hleftLimit
    case isFalse hfirst =>
      obtain ⟨hend, hnearest⟩ := (scrollsTowards_column hwidths hfixed hcolumn).isNearest h hstart
        (Nat.not_lt.mp hfirst)
      exact ⟨hend, fun hnot => absurd hnot (Nat.not_lt.mpr hfixed), fun _ => hnearest⟩

/-- A row that is brought into view ends at the nearest place at which it is, and a fixed one moves
nothing. -/
theorem RevealsRow.isNearest (h : RevealsRow m row m') (hm : m.IsCoherent)
    (hheight : 0 < m.config.rowHeight) (hrow : row < m.rowCount) :
  (m.Scrolls m' ∧ m'.IsCoherent ∧ m'.viewport.scrollLeft = m.viewport.scrollLeft)
    ∧ (row < min m.config.fixedRows m.rowCount →
      m'.viewport.scrollTop = m.viewport.scrollTop)
    ∧ (min m.config.fixedRows m.rowCount ≤ row → Axis.IsNearest
        (Axis.InView (fun i => i * m.config.rowHeight) (min m.config.fixedRows m.rowCount)
          m.config.headerHeight m.viewport.height row)
        m.limits.top m.viewport.scrollTop m'.viewport.scrollTop)
  := by
  have htopLimit : m.viewport.scrollTop ≤ m.limits.top := hm.top_le
  have hstart : m.Scrolls m ∧ m.IsCoherent ∧ m.viewport.scrollLeft = m.viewport.scrollLeft :=
    ⟨.refl m, hm, rfl⟩
  rw [RevealsRow] at h
  split at h
  case isTrue hfixed =>
    rw [h]
    exact ⟨hstart, fun _ => rfl, fun hnot => absurd hfixed (by omega)⟩
  case isFalse hfixed =>
    -- there is the row itself behind the fixed ones, so all of these exist
    have hmin : min m.config.fixedRows m.rowCount = m.config.fixedRows := by omega
    split at h
    case isTrue hfirst =>
      have hviewport : m'.viewport = { m.viewport with scrollTop := row - m.config.fixedRows } := by
        rw [h]
        exact Model.viewport_scrollTo hm.left_le (by omega)
      have hscrolls : m.Scrolls m' := h ▸ Model.Scrolls.scrollTo m _ _
      rw [hviewport]
      refine ⟨⟨hscrolls, hscrolls.tracks.isCoherent hm, rfl⟩, ?_, ?_⟩
      · intro hnot
        exact absurd hnot (by omega)
      · intro hbehind
        rw [hmin] at hbehind ⊢
        exact Axis.isNearest_of_scrolledOut hbehind hfirst htopLimit
    case isFalse hfirst =>
      obtain ⟨hend, hnearest⟩ := (scrollsTowards_row hheight (by omega) hrow).isNearest h hstart
        (Nat.not_lt.mp hfirst)
      exact ⟨hend, fun hnot => absurd hnot (by omega), fun _ => hnearest⟩

/-- From the first model to the second one the grid has been scrolled, no further than needed to
bring a cell into view: along each axis to the nearest place at which its column or row is the first
one that scrolls or ends within the viewport, and along an axis on which it is fixed not at all. -/
structure IsLeastScroll (m m' : Model Rat σ) (cell : CellPlace) : Prop where
  column_fixed : cell.column < m.fixedColumns →
    m'.viewport.scrollLeft = m.viewport.scrollLeft
  column_nearest : m.fixedColumns ≤ cell.column →
    Axis.IsNearest (Layout.ColumnInView m.columns m.config m.viewport m.rowCount cell.column)
      m.limits.left m.viewport.scrollLeft m'.viewport.scrollLeft
  row_fixed : cell.row < min m.config.fixedRows m.rowCount →
    m'.viewport.scrollTop = m.viewport.scrollTop
  row_nearest : min m.config.fixedRows m.rowCount ≤ cell.row →
    Axis.IsNearest (Layout.RowInView m.columns m.config m.viewport m.rowCount cell.row)
      m.limits.top m.viewport.scrollTop m'.viewport.scrollTop

theorem IsLeastScroll.of_viewport_eq {cell : CellPlace} {m'' : Model Rat σ}
    (h : IsLeastScroll m m' cell) (hviewport : m''.viewport = m'.viewport) :
  IsLeastScroll m m'' cell
  := by
  constructor
  case column_fixed => exact hviewport ▸ h.column_fixed
  case column_nearest => exact hviewport ▸ h.column_nearest
  case row_fixed => exact hviewport ▸ h.row_fixed
  case row_nearest => exact hviewport ▸ h.row_nearest

/-- Bringing a cell of the table into view takes the least scrolling. -/
theorem Reveals.isLeastScroll {cell : CellPlace} (h : Reveals m cell m') (hm : m.IsCoherent)
    (hwidths : m.columns.ShowsWidths) (hheight : 0 < m.config.rowHeight)
    (hcolumn : cell.column < m.columns.shownCount) (hrow : cell.row < m.rowCount) :
  IsLeastScroll m m' cell
  := by
  obtain ⟨between, hrevealsColumn, hrevealsRow⟩ := h
  obtain ⟨⟨hscrolls, hbetween, htop⟩, hcolumnFixed, hcolumnNearest⟩ :=
    hrevealsColumn.isNearest hm hwidths hcolumn
  obtain ⟨-, hconfig, -, -, hviewport⟩ := hscrolls.same
  obtain ⟨⟨-, -, hleft⟩, hrowFixed, hrowNearest⟩ :=
    hrevealsRow.isNearest hbetween (hconfig ▸ hheight) (hscrolls.rowCount_eq ▸ hrow)
  rw [hconfig, hscrolls.rowCount_eq, htop] at hrowFixed
  rw [hconfig, hscrolls.rowCount_eq, hscrolls.limits_eq, htop, hviewport] at hrowNearest
  constructor
  case column_fixed =>
    intro hfixed
    rw [hleft]
    exact hcolumnFixed hfixed
  case column_nearest =>
    intro hfixed
    rw [hleft]
    apply (hcolumnNearest hfixed).congr
    intro left
    exact Layout.columnInView_iff hwidths m.config m.viewport m.rowCount left hfixed hcolumn
  case row_fixed => exact hrowFixed
  case row_nearest =>
    intro hfixed
    apply (hrowNearest hfixed).congr
    intro top
    exact Layout.rowInView_iff hheight m.columns m.viewport top hfixed hrow

end Nearest

end CellSelection

end DataGrid
