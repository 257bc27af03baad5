import DataGrid.Proofs.Feature.Gesture
import DataGrid.Proofs.Layout.Scrolling
import DataGrid.Proofs.Selection.Toggling

/-!
# Dragging over cells

A drag reaches from the cell where it began to the data cell that was under the pointer when the
event came in, and where there was none to the cell nearest to the pointer after the grid has been
scrolled (`CellSelection.Drags`).  It ends at the cell under the pointer if that is the one that was
there when the event came in (`CellSelection.Drags.follows`).  Scrolling moves no cell under a
pointer that is inside the viewport: it is over cells that do not scroll, or over none
(`CellSelection.isSteady_of_inside`).
-/

namespace DataGrid

variable {α σ : Type}

namespace CellSelection

variable [Pixel α] [DataSource σ] {m m' : Model α σ} {p : Point α}

/-- The data cell under a position. -/
def under? (m : Model α σ) (p : Point α) : Option CellPlace := (m.cellAt? p).bind placeOf?

/-- The cell at which a drag to a position is to end: the data cell there, or else the nearest
one. -/
def aim? (m : Model α σ) (p : Point α) : Option CellPlace := (under? m p).or (nearestCell? m p)

/-- The latest range of cells reaches from a cell to the one at which a drag to a position is to
end. -/
def Follows (anchor : CellPlace) (m : Model α σ) (p : Point α) : Prop :=
  ∀ cell, aim? m p = some cell →
    m.selection.last? .cells = some (rangeTo anchor cell)

/-- A step of scrolling in a drag to a position leaves the same cell there. -/
def IsSteady (m : Model α σ) (p : Point α) : Prop :=
  ∀ scrolled : Model α σ,
    m.scrollBy? (dragDirection m p).1 (dragDirection m p).2 = some scrolled →
    scrolled.toFrame.cellAt? p = m.toFrame.cellAt? p

/-- Which data cell is under a position depends on no more than what is there. -/
theorem under?_congr (h : m'.toFrame.cellAt? p = m.toFrame.cellAt? p) :
  under? m' p = under? m p
  := by
  rw [under?, under?, Model.cellAt?, Model.cellAt?, h]
  cases m.toFrame.cellAt? p <;> rfl

omit [Pixel α] [DataSource σ] in
/-- The same part of the table is on the screen, laid out in the same way. -/
structure Shows (m m' : Model α σ) : Prop where
  layout_eq : m'.layout = m.layout
  viewport_eq : m'.viewport = m.viewport

namespace Shows

omit [Pixel α] [DataSource σ] in
theorem of_toFrame_eq (h : m'.toFrame = m.toFrame) :
  Shows m m'
  := ⟨congrArg (fun f => f.layout) h, congrArg (fun f => f.viewport) h⟩

omit [Pixel α] [DataSource σ] in
theorem of_still_eq (h : m'.still = m.still) :
  Shows m m'
  := ⟨congrArg (fun m => m.layout) h, congrArg (fun m => m.viewport) h⟩

omit [Pixel α] [DataSource σ] in
theorem trans {m'' : Model α σ} (h : Shows m m') (h' : Shows m' m'') :
  Shows m m''
  := ⟨h'.layout_eq.trans h.layout_eq, h'.viewport_eq.trans h.viewport_eq⟩

omit [DataSource σ] in
theorem cellAt?_eq (h : Shows m m') :
  m'.toFrame.cellAt? p = m.toFrame.cellAt? p
  := by
  rw [Frame.cellAt?, Frame.cellAt?, h.layout_eq]

omit [DataSource σ] in
theorem nearestCell?_eq (h : Shows m m') :
  nearestCell? m' p = nearestCell? m p
  := by
  simp only [nearestCell?, pullIn, h.layout_eq, h.viewport_eq, h.cellAt?_eq]

theorem aim?_eq (h : Shows m m') :
  aim? m' p = aim? m p
  := by
  rw [aim?, aim?, under?_congr h.cellAt?_eq, h.nearestCell?_eq]

end Shows

/-! ### Reaching on -/

section Reaching

variable {s : CellSelection α} {anchor : CellPlace}

omit [Pixel α] [DataSource σ] in
/-- What comes of a feature and a model that reach on to a cell, if there is one. -/
structure Reaches (anchor : CellPlace) (cell? : Option CellPlace) (s : CellSelection α)
    (m : Model α σ) (s' : CellSelection α) (m' : Model α σ) : Prop where
  anchor_eq : s'.anchor = s.anchor
  frame_eq : m'.toFrame = m.toFrame
  last?_eq : m'.selection.last? .cells
    = (cell?.map (rangeTo anchor)).or (m.selection.last? .cells)

omit [Pixel α] [DataSource σ] in
theorem reaches_extendTo? (hs : s.anchor = some anchor) (m : Model α σ) (cell? : Option CellPlace) :
  Reaches anchor cell? s m (s.extendTo? m cell?).1 (s.extendTo? m cell?).2
  := by
  cases cell? with
  | none => exact ⟨rfl, rfl, rfl⟩
  | some cell =>
    rw [extendTo?, extendTo, hs]
    dsimp only
    split
    case isTrue hlast => exact ⟨hs.symm, rfl, hlast⟩
    case isFalse => exact ⟨hs.symm, rfl, Selection.last?_extendLast _ (rangeTo anchor cell)⟩

/-- What comes of scrolling in a drag: nothing, or the grid is scrolled one step and the nearest
cell is reached. -/
inductive DragScrolls (anchor : CellPlace) (s : CellSelection α) (p : Point α) (t : GridTurn α σ)
    (s' : CellSelection α) (t' : GridTurn α σ) : Prop where
  | stays (anchor_eq : s'.anchor = s.anchor) (model_eq : t'.model = t.model)
    (request : t'.request = t.request)
    (rests : s.scroll = none → dragDirection t.model p ≠ (0, 0) →
      t.model.scrollBy? (dragDirection t.model p).1 (dragDirection t.model p).2 = none)
  | steps (m : Model α σ)
    (scroll : t.model.scrollBy? (dragDirection t.model p).1 (dragDirection t.model p).2 = some m)
    (reaches : Reaches anchor (nearestCell? m p) s m s' t'.model) (request : t'.request = t.request)

theorem dragScrolls_dragScroll (hs : s.anchor = some anchor) (hp : s.pointer = some p)
    (t : GridTurn α σ) :
  DragScrolls anchor s p t (s.dragScroll p t).1 (s.dragScroll p t).2
  := by
  rw [dragScroll]
  split
  case h_1 hdirection => exact .stays rfl rfl rfl fun _ hne => absurd hdirection hne
  case h_2 columns rows _ hdirection =>
    split
    case isTrue hsame =>
      refine .stays rfl rfl rfl ?_
      intro hnone
      rw [hnone] at hsame
      cases hsame
    case isFalse =>
      rw [scrollStep]
      split
      case h_1 hscroll =>
        refine .stays rfl rfl rfl ?_
        intro _ _
        rw [hdirection]
        apply hscroll
      case h_2 m hscroll =>
        rw [hp, Option.bind_some]
        have hreaches := reaches_extendTo? hs m (nearestCell? m p)
        refine .steps m ?_ ?_ rfl
        · rw [hdirection]
          apply hscroll
        · exact ⟨hreaches.anchor_eq, hreaches.frame_eq, hreaches.last?_eq⟩

/-- What a drag comes to that reaches from a cell. -/
structure Drags (s : CellSelection α) (anchor : CellPlace) (e : PointerEvent α)
    (m m' : Model α σ) : Prop where
  /-- The grid stays where it is, or it is scrolled one step. -/
  scrolls : Shows m m'
    ∨ ∃ scrolled, m.scrollBy? (dragDirection m e.point).1 (dragDirection m e.point).2
      = some scrolled ∧ Shows scrolled m'
  /-- It is scrolled if there is room and no step has gone before. -/
  starts : s.scroll = none → dragDirection m e.point ≠ (0, 0) → ∀ {scrolled},
    m.scrollBy? (dragDirection m e.point).1 (dragDirection m e.point).2 = some scrolled →
    Shows scrolled m'
  last?_eq : m'.selection.last? .cells
    = (((e.cell?.bind placeOf?).or (nearestCell? m' e.point)).map (rangeTo anchor)).or
      (m.selection.last? .cells)

/-- A drag stops at the feature that is in the middle of one. -/
theorem exists_handle_drag (hdragging : s.dragging = true) (hs : s.anchor = some anchor)
    (e : PointerEvent α) (t : GridTurn α σ) :
  ∃ f' t', (BuiltIn.cellSelection s).handle (.pointer .drag e) t = ⟨.ok .stop, f', t'⟩
    ∧ t'.request = t.request ∧ Drags s anchor e t.model t'.model
  := by
  have hgoes : ¬ (!s.dragging) = true := by
    rw [hdragging]
    decide
  simp only [BuiltIn.handle, handle, if_neg hgoes]
  have hscrolls := dragScrolls_dragScroll (s := { s with pointer := some e.point }) hs rfl t
  generalize ({ s with pointer := some e.point } : CellSelection α).dragScroll e.point t = r
    at hscrolls ⊢
  have hanchor : r.1.anchor = some anchor := by
    cases hscrolls with
    | stays anchor_eq => apply anchor_eq.trans hs
    | steps m scroll reaches => apply reaches.anchor_eq.trans hs
  have hreaches := reaches_extendTo? hanchor r.2.model
    ((e.cell?.bind placeOf?).or (nearestCell? r.2.model e.point))
  generalize r.1.extendTo? r.2.model
    ((e.cell?.bind placeOf?).or (nearestCell? r.2.model e.point)) = r' at hreaches ⊢
  have hshows := Shows.of_toFrame_eq hreaches.frame_eq
  have hlast := hreaches.last?_eq
  rw [← hshows.nearestCell?_eq] at hlast
  refine ⟨.cellSelection r'.1, { r.2 with model := r'.2 }, rfl, ?_⟩
  cases hscrolls with
  | stays _ model_eq request rests =>
    rw [model_eq] at hshows hlast
    refine ⟨request, .inl hshows, ?_, hlast⟩
    intro hnone hdirection scrolled hscroll
    cases (rests hnone hdirection).symm.trans hscroll
  | steps m scroll reaches request =>
    have hscrolled := (Shows.of_toFrame_eq reaches.frame_eq).trans hshows
    have hselection : m.selection = t.model.selection :=
      (Model.Scrolls.of_scrollBy? scroll).selection_eq
    refine ⟨request, .inr ⟨m, scroll, hscrolled⟩, ?_, hlast.trans ?_⟩
    · intro _ _ scrolled hscroll
      obtain rfl := Option.some.inj (scroll.symm.trans hscroll)
      apply hscrolled
    -- if there is no nearest cell now, none was reached when the grid was scrolled
    rw [reaches.last?_eq, ← hscrolled.nearestCell?_eq, hselection]
    cases e.cell?.bind placeOf? <;> cases nearestCell? r'.2 e.point <;> rfl

end Reaching

/-! ### Where a drag ends -/

omit [Pixel α] [DataSource σ] in
theorem rangeTo_inj {start stop start' stop' : CellPlace}
    (h : rangeTo start stop = rangeTo start' stop') :
  start = start' ∧ stop = stop'
  := by
  obtain ⟨row, column⟩ := start
  obtain ⟨row', column'⟩ := stop
  simp only [rangeTo, Range.cells, Range.mk.injEq, true_and] at h
  obtain ⟨rfl, rfl, rfl, rfl⟩ := h
  exact ⟨rfl, rfl⟩

namespace Drags

variable {s : CellSelection α} {anchor : CellPlace} {e : PointerEvent α}

theorem of_still_eq (h : Drags s anchor e m m') {m'' : Model α σ} (hstill : m''.still = m'.still) :
  Drags s anchor e m m''
  := by
  have hshows := Shows.of_still_eq hstill
  have hselection : m''.selection = m'.selection := congrArg (fun m => m.selection) hstill
  constructor
  case scrolls =>
    apply h.scrolls.imp
    · intro hstays
      apply hstays.trans hshows
    · rintro ⟨scrolled, hscroll, hscrolled⟩
      exact ⟨scrolled, hscroll, hscrolled.trans hshows⟩
  case starts =>
    intro hnone hdirection scrolled hscroll
    apply (h.starts hnone hdirection hscroll).trans hshows
  case last?_eq =>
    rw [hselection, hshows.nearestCell?_eq]
    apply h.last?_eq

/-- A drag ends at the cell under the pointer if there is the same data cell as before, or again
none. -/
theorem follows (h : Drags s anchor e m m') (he : e.cell? = m.cellAt? e.point)
    (hsame : under? m' e.point = under? m e.point) :
  Follows anchor m' e.point
  := by
  intro cell hcell
  have haim : (under? m e.point).or (nearestCell? m' e.point) = some cell := by
    rw [← hsame]
    apply hcell
  rw [h.last?_eq, he]
  change (((under? m e.point).or (nearestCell? m' e.point)).map (rangeTo anchor)).or _ = _
  rw [haim]
  rfl

/-- A drag that does not scroll ends at the cell under the pointer. -/
theorem follows_of_not_scrolled (h : Drags s anchor e m m') (he : e.cell? = m.cellAt? e.point)
    (hsame : m.viewport.scrolledApart m'.viewport = false) :
  Follows anchor m' e.point
  := by
  apply h.follows he
  obtain hstays | ⟨scrolled, hscroll, hscrolled⟩ := h.scrolls
  · apply under?_congr hstays.cellAt?_eq
  · obtain ⟨-, -, -, hapart⟩ := Model.viewport_scrollBy? hscroll
    rw [hscrolled.viewport_eq, hapart] at hsame
    cases hsame

/-- A drag ends at the cell under the pointer if scrolling leaves the same cell there. -/
theorem follows_of_isSteady (h : Drags s anchor e m m') (he : e.cell? = m.cellAt? e.point)
    (hsteady : IsSteady m e.point) :
  Follows anchor m' e.point
  := by
  apply h.follows he
  apply under?_congr
  obtain hstays | ⟨scrolled, hscroll, hscrolled⟩ := h.scrolls
  · apply hstays.cellAt?_eq
  · rw [hscrolled.cellAt?_eq]
    apply hsteady scrolled hscroll

/-- A drag that comes in over a data cell ends there. -/
theorem last?_of_under? (h : Drags s anchor e m m') (he : e.cell? = m.cellAt? e.point)
    {old : CellPlace} (hold : under? m e.point = some old) :
  m'.selection.last? .cells = some (rangeTo anchor old)
  := by
  rw [h.last?_eq, he]
  change (((under? m e.point).or (nearestCell? m' e.point)).map (rangeTo anchor)).or _ = _
  rw [hold]
  rfl

/-- A drag that comes in over a data cell ends at the cell under the pointer exactly if that is the
same one still. -/
theorem follows_iff (h : Drags s anchor e m m') (he : e.cell? = m.cellAt? e.point) {old : CellPlace}
    (hold : under? m e.point = some old) :
  Follows anchor m' e.point ↔ ∀ cell, aim? m' e.point = some cell → cell = old
  := by
  have hlast := h.last?_of_under? he hold
  constructor
  · intro hfollows cell hcell
    have hrange := hlast.symm.trans (hfollows cell hcell)
    apply (rangeTo_inj (Option.some.inj hrange)).2.symm
  · intro hsame cell hcell
    rw [hsame cell hcell]
    apply hlast

end Drags

/-! ### What a drag reaches from -/

section Anchored

variable {s : CellSelection α}

omit [Pixel α] [DataSource σ] in
/-- While cells are being dragged over or keys step on from one there is one to reach from. -/
def IsAnchored (s : CellSelection α) : Prop :=
  s.dragging = true ∨ s.focus.isSome = true → ∃ anchor, s.anchor = some anchor

namespace IsAnchored

omit [Pixel α] [DataSource σ] in
theorem stopDrag (h : s.IsAnchored) :
  s.stopDrag.IsAnchored
  := by
  rintro (⟨⟨⟩⟩ | hfocus)
  exact h (.inr hfocus)

omit [Pixel α] [DataSource σ] in
theorem extendTo (h : s.IsAnchored) (m : Model α σ) (cell : CellPlace) :
  (s.extendTo m cell).1.IsAnchored
  := by
  rw [CellSelection.extendTo]
  split
  case h_1 => exact h
  case h_2 anchor hanchor => exact fun _ => ⟨anchor, hanchor⟩

omit [Pixel α] [DataSource σ] in
theorem extendTo? (h : s.IsAnchored) (m : Model α σ) (cell? : Option CellPlace) :
  (s.extendTo? m cell?).1.IsAnchored
  := by
  cases cell? with
  | none => apply h
  | some cell => apply h.extendTo m cell

theorem scrollStep (h : s.IsAnchored) (columns rows : Int) (t : GridTurn α σ) :
  (s.scrollStep columns rows t).1.IsAnchored
  := by
  rw [CellSelection.scrollStep]
  split
  case h_1 => apply h
  case h_2 m _ => apply h.extendTo? m (s.pointer.bind (nearestCell? m))

theorem dragScroll (h : s.IsAnchored) (p : Point α) (t : GridTurn α σ) :
  (s.dragScroll p t).1.IsAnchored
  := by
  rw [CellSelection.dragScroll]
  split
  case h_1 => apply h
  case h_2 =>
    split
    · apply h
    · apply h.scrollStep

omit [Pixel α] [DataSource σ] in
/-- A press begins at its cell, or there is a cell already. -/
theorem press (s : CellSelection α) (e : PointerEvent α) (cell : CellPlace) (m : Model α σ) :
  (s.press e cell m).1.IsAnchored
  := by
  rw [CellSelection.press]
  cases e.modifiers.shift with
  | false => exact fun _ => ⟨cell, rfl⟩
  | true =>
    cases s.anchor with
    | none => exact fun _ => ⟨cell, rfl⟩
    | some anchor => exact fun _ => ⟨anchor, rfl⟩

theorem stepOn (h : s.IsAnchored) (m : Model α σ) (start : CellPlace) (delta : Int × Int)
    (modifiers : Modifiers) :
  (s.stepOn m start delta modifiers).1.IsAnchored
  := by
  unfold CellSelection.stepOn
  dsimp only
  split
  · apply h.extendTo
  · exact fun _ => ⟨_, rfl⟩

/-- A key ends a drag, or it leaves a cell to reach from. -/
theorem of_key? (h : s.IsAnchored) {e : KeyEvent} {m m' : Model α σ} {s' : CellSelection α}
    (hkey : s.key? e m = some (s', m')) :
  s'.IsAnchored
  := by
  rw [key?] at hkey
  split at hkey
  case isTrue =>
    split at hkey
    · cases hkey
    · obtain ⟨rfl, -⟩ := Prod.mk.inj (Option.some.inj hkey)
      rintro (⟨⟨⟩⟩ | ⟨⟨⟩⟩)
  case isFalse =>
    split at hkey
    case isTrue =>
      rw [selectAll?] at hkey
      split at hkey
      · split at hkey
        · cases hkey
        · obtain ⟨rfl, -⟩ := Prod.mk.inj (Option.some.inj hkey)
          exact fun _ => ⟨_, rfl⟩
      · cases hkey
    case isFalse =>
      obtain ⟨delta, -, hkey⟩ := Option.bind_eq_some_iff.mp hkey
      obtain ⟨start, -, hkey⟩ := Option.bind_eq_some_iff.mp hkey
      obtain ⟨rfl, -⟩ := Prod.mk.inj (Option.some.inj hkey)
      apply h.stepOn

theorem handle (h : s.IsAnchored) (input : Input α) (t : GridTurn α σ) :
  (s.handle input t).state.IsAnchored
  := by
  unfold CellSelection.handle
  split
  case h_1 e =>
    split
    · apply h
    · apply press
  case h_2 e =>
    split
    · apply h
    · have hpointed : { s with pointer := some e.point }.IsAnchored := h
      apply (hpointed.dragScroll e.point t).extendTo?
  case h_3 =>
    split
    · apply h.stopDrag
    · apply h.stopDrag
  case h_4 e =>
    split
    · apply h
    case h_2 s' m' hkey => apply h.of_key? hkey
  case h_5 => apply h

theorem fire (h : s.IsAnchored) (timer : TimerToken) (t : GridTurn α σ) :
  (s.fire timer t).1.IsAnchored
  := by
  rw [CellSelection.fire]
  split
  · apply h
  · apply h.scrollStep

end IsAnchored

end Anchored

/-! ### A pointer inside the viewport -/

theorem scrollLeft_of_dragDirection (hm : m.IsCoherent)
    (hscroll : m.scrollBy? (dragDirection m p).1 (dragDirection m p).2 = some m') :
  p.x < m.fixedEdge ∨ m'.viewport.scrollLeft = m.viewport.scrollLeft
    ∨ Pixel.lesser m.layout.rightEdge m.viewport.width ≤ p.x
      ∧ m.viewport.scrollLeft ≤ m'.viewport.scrollLeft
  := by
  obtain ⟨-, hleft, -, -⟩ := Model.viewport_scrollBy? hscroll
  have hlimit : m.viewport.scrollLeft ≤ m.limits.left := hm.left_le
  rw [dragDirection, Viewport.stepBy] at hleft
  dsimp only at hleft
  split at hleft
  case isTrue hfixed => exact .inl hfixed.1
  case isFalse =>
    split at hleft
    case isTrue hbehind =>
      right; right
      refine ⟨hbehind.1, ?_⟩
      omega
    case isFalse =>
      right; left
      omega

theorem scrollTop_of_dragDirection (hm : m.IsCoherent)
    (hscroll : m.scrollBy? (dragDirection m p).1 (dragDirection m p).2 = some m') :
  p.y < m.fixedRowEdge ∨ m'.viewport.scrollTop = m.viewport.scrollTop
    ∨ Pixel.lesser m.layout.bottomEdge m.viewport.height ≤ p.y
      ∧ m.viewport.scrollTop ≤ m'.viewport.scrollTop
  := by
  obtain ⟨-, -, htop, -⟩ := Model.viewport_scrollBy? hscroll
  have hlimit : m.viewport.scrollTop ≤ m.limits.top := hm.top_le
  rw [dragDirection, Viewport.stepBy] at htop
  dsimp only at htop
  split at htop
  case isTrue hfixed => exact .inl hfixed.1
  case isFalse =>
    split at htop
    case isTrue hbehind =>
      right; right
      refine ⟨hbehind.1, ?_⟩
      omega
    case isFalse =>
      right; left
      omega

end CellSelection

section Inside

variable [DataSource σ] {m : Model Rat σ} {p : Point Rat}

/-- If the lesser of two lengths is not beyond a position that the second one is beyond, it is the
first one. -/
theorem Pixel.le_of_lesser_le {a b x : Rat} (h : Pixel.lesser a b ≤ x) (hx : x < b) :
  a ≤ x
  := by
  rw [lesser] at h
  split at h
  · exact absurd hx (not_lt.mpr h)
  · exact h

/-- A step of scrolling in a drag moves no cell under the pointer while that is inside the
viewport. -/
theorem CellSelection.isSteady_of_inside (hm : m.IsCoherent) (hwidths : m.columns.HasWidths)
    (hheader : 0 ≤ m.config.headerRowHeight) (hheight : 0 ≤ m.config.rowHeight)
    (hx : p.x < m.viewport.width) (hy : p.y < m.viewport.height) :
  IsSteady m p
  := by
  intro m' hscroll
  have hcolumns := scrollLeft_of_dragDirection hm hscroll
  have hrows := scrollTop_of_dragDirection hm hscroll
  have hlayout : m'.layout = .compute m.columns m.config m'.viewport m.rowCount
      ∧ m'.viewport.width = m.viewport.width ∧ m'.viewport.height = m.viewport.height := by
    rw [Model.scrollBy?] at hscroll
    split at hscroll
    · obtain rfl := Option.some.inj hscroll
      exact ⟨rfl, rfl, rfl⟩
    · cases hscroll
  obtain ⟨hlayout, hwidth, hviewportHeight⟩ := hlayout
  have hcolumn : m'.layout.columnAt? p.x = m.layout.columnAt? p.x := by
    rw [hlayout, hm.layout_eq]
    obtain hfixed | hsame | ⟨hbehind, hleft⟩ := hcolumns
    · rw [Frame.fixedEdge_eq] at hfixed
      apply Layout.columnAt?_of_lt_fixed hwidths hwidth hfixed
    · apply Layout.columnAt?_of_scrollLeft_eq hwidth hsame
    · rw [hm.layout_eq] at hbehind
      apply Layout.columnAt?_behind hwidths hwidth hleft (Pixel.le_of_lesser_le hbehind hx) hx
  have hrow : m'.layout.rowAt? p.y = m.layout.rowAt? p.y := by
    rw [hlayout, hm.layout_eq]
    obtain hfixed | hsame | ⟨hbehind, htop⟩ := hrows
    · rw [Frame.fixedRowEdge_eq hm.layout_eq] at hfixed
      apply Layout.rowAt?_of_lt_standingEdge hheader hheight hfixed
    · apply Layout.rowAt?_of_scrollTop_eq hviewportHeight hsame
    · rw [hm.layout_eq] at hbehind
      apply Layout.rowAt?_behind hheader hheight htop (Pixel.le_of_lesser_le hbehind hy) hy
  rw [Frame.cellAt?, Frame.cellAt?, hcolumn, hrow]

end Inside

namespace BuiltIn

/-- A feature that selects cells has one to reach from, while it is busy with some. -/
def IsAnchored : BuiltIn α → Prop
  | .cellSelection s => s.IsAnchored
  | _ => True

theorem isAnchored_of_mem_all {f : BuiltIn α} (hf : f ∈ all) :
  f.IsAnchored
  := by
  simp only [all, List.mem_cons, List.not_mem_nil, or_false] at hf
  obtain rfl | rfl | rfl | rfl | rfl | rfl | rfl | rfl | rfl | rfl := hf
  case inr.inr.inr.inr.inr.inr.inr.inl => rintro (⟨⟨⟩⟩ | ⟨⟨⟩⟩)
  all_goals trivial

namespace IsAnchored

variable [Pixel α] [DataSource σ] {f : BuiltIn α}

theorem handle (h : f.IsAnchored) (input : Input α) (t : GridTurn α σ) :
  (f.handle input t).feature.IsAnchored
  := by
  cases f with
  | cellSelection s => apply CellSelection.IsAnchored.handle h
  | _ => trivial

theorem fire (h : f.IsAnchored) (timer : TimerToken) (t : GridTurn α σ) :
  (f.fire timer t).feature.IsAnchored
  := by
  cases f with
  | cellSelection s => apply CellSelection.IsAnchored.fire h
  | _ => trivial

end IsAnchored

end BuiltIn

end DataGrid
