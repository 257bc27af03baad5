import Mathlib.Logic.Relation
import DataGrid.Proofs.Model.Coherence

/-!
# Deeds

Whatever features do to a model, they do it by a few kinds of deeds (`Deed`, `Model.act`).  What
every deed of a kind keeps is kept by all that is done by such deeds, one after the other
(`Model.Acts.keeps`).
-/

namespace DataGrid

/-- One thing that a feature can do to a model. -/
inductive Deed (α : Type) where
  | scroll (left top : Nat)
  | draw (overlays : Overlays α)
  | hover (cell : Option GridCell)
  | select (selection : Selection)
  | resize (column : ColumnId) (width : α)
  | noteResize (column : ColumnId) (before after : α)
  | fixColumns (count : Nat)
  | fixRows (count : Nat)
  | move (start count target : Nat)
  | askForMenu (point : Point α) (gridCell : GridCell) (dataCell : DataCell)

/-- Whether a deed leaves the columns and the settings alone. -/
def Deed.isHarmless {α : Type} : Deed α → Bool
  | .scroll .. | .draw _ | .hover _ | .select _ | .askForMenu .. => true
  | _ => false

/-- Whether a deed is no more than scrolling. -/
def Deed.isScroll {α : Type} : Deed α → Bool
  | .scroll .. => true
  | _ => false

namespace Model

variable {α σ : Type} [Pixel α] [DataSource σ]

/-- Do one thing to a model. -/
def act (m : Model α σ) : Deed α → Model α σ
  | .scroll left top => m.scrollTo left top
  | .draw overlays => { m with overlays := overlays }
  | .hover cell => { m with hovered := cell }
  | .select s => m.select s
  | .resize id width => m.setColumnWidth id width
  | .noteResize id before after => m.emit (.columnResized id before after)
  | .fixColumns count => m.setFixedColumns count
  | .fixRows count => m.setFixedRows count
  | .move start count target => (m.moveColumns? start count target).getD m
  | .askForMenu point gridCell dataCell =>
    m.emit (.contextMenuRequested point gridCell dataCell)

/-- The model `m'` comes from `m` by deeds of a kind, one after the other. -/
def Acts (may : Deed α → Prop) : Model α σ → Model α σ → Prop :=
  Relation.ReflTransGen fun m m' => ∃ d, may d ∧ m' = m.act d

/-- The model `m'` comes from `m` by deeds that leave the columns and the settings alone. -/
abbrev Roams (m m' : Model α σ) : Prop := m.Acts (fun d => d.isHarmless = true) m'

/-- The model `m'` comes from `m` by scrolling, maybe several times. -/
abbrev Scrolls (m m' : Model α σ) : Prop := m.Acts (fun d => d.isScroll = true) m'

variable {may may' : Deed α → Prop} {m m' m'' : Model α σ}

namespace Acts

theorem refl (m : Model α σ) :
  m.Acts may m
  := Relation.ReflTransGen.refl

theorem deed {d : Deed α} (hd : may d) (m : Model α σ) :
  m.Acts may (m.act d)
  := Relation.ReflTransGen.single ⟨d, hd, rfl⟩

theorem trans (h : m.Acts may m') (h' : m'.Acts may m'') :
  m.Acts may m''
  := Relation.ReflTransGen.trans h h'

theorem mono (h : m.Acts may m') (hmay : ∀ d, may d → may' d) :
  m.Acts may' m'
  := by
  apply Relation.ReflTransGen.mono _ _ _ h
  rintro m m' ⟨d, hd, rfl⟩
  apply Exists.intro d ⟨hmay d hd, rfl⟩

/-- What every deed keeps is kept by all of them. -/
theorem keeps (h : m.Acts may m') {M : Model α σ → Prop}
    (act : ∀ {m : Model α σ} {d : Deed α}, may d → M m → M (m.act d)) (hm : M m) :
  M m'
  := by
  induction h with
  | refl => apply hm
  | tail _ hstep ih =>
    obtain ⟨d, hd, rfl⟩ := hstep
    apply act hd ih

end Acts

/-! ### Scrolling -/

namespace Scrolls

theorem scrollTo (m : Model α σ) (left top : Nat) :
  m.Scrolls (m.scrollTo left top)
  := Relation.ReflTransGen.single ⟨.scroll left top, rfl, rfl⟩

/-- A step of scrolling leads to a place that one can scroll to. -/
theorem of_scrollBy? {columns rows : Int} (h : m.scrollBy? columns rows = some m') :
  m.Scrolls m'
  := by
  rw [scrollBy?] at h
  split at h
  · obtain rfl := Option.some.inj h
    apply scrollTo
  · cases h

theorem scrollBy (m : Model α σ) (columns rows : Int) :
  m.Scrolls (m.scrollBy columns rows)
  := by
  rw [Model.scrollBy]
  cases h : m.scrollBy? columns rows with
  | none => apply Acts.refl
  | some m' => apply of_scrollBy? h

theorem roams (h : m.Scrolls m') :
  m.Roams m'
  := by
  apply h.mono
  intro d hd
  cases d with
  | scroll left top => rfl
  | _ => cases hd

theorem overlays_eq (h : m.Scrolls m') :
  m'.overlays = m.overlays
  := by
  apply h.keeps (M := fun m' => m'.overlays = m.overlays) _ rfl
  intro m' d hd ih
  cases d with
  | scroll left top => apply ih
  | _ => cases hd

theorem selection_eq (h : m.Scrolls m') :
  m'.selection = m.selection
  := by
  apply h.keeps (M := fun m' => m'.selection = m.selection) _ rfl
  intro m' d hd ih
  cases d with
  | scroll left top => apply ih
  | _ => cases hd

/-- Scrolling leaves the columns, the settings, the table and the size of the viewport alone. -/
theorem same (h : m.Scrolls m') :
  m'.columns = m.columns ∧ m'.config = m.config ∧ m'.data = m.data
    ∧ m'.viewport.width = m.viewport.width ∧ m'.viewport.height = m.viewport.height
  := by
  apply h.keeps (M := fun m' => m'.columns = m.columns ∧ m'.config = m.config ∧ m'.data = m.data
    ∧ m'.viewport.width = m.viewport.width ∧ m'.viewport.height = m.viewport.height) _
    ⟨rfl, rfl, rfl, rfl, rfl⟩
  intro m' d hd ih
  cases d with
  | scroll left top => apply ih
  | _ => cases hd

theorem fixedColumns_eq (h : m.Scrolls m') :
  m'.fixedColumns = m.fixedColumns
  := by
  obtain ⟨hcolumns, hconfig, -⟩ := h.same
  rw [Frame.fixedColumns, Frame.fixedColumns, hcolumns, hconfig]

theorem rowCount_eq (h : m.Scrolls m') :
  m'.rowCount = m.rowCount
  := by
  rw [rowCount, rowCount, h.same.2.2.1]

/-- The limits do not depend on the place that the grid is scrolled to. -/
theorem limits_eq (h : m.Scrolls m') :
  m'.limits = m.limits
  := by
  obtain ⟨hcolumns, hconfig, -, hwidth, hheight⟩ := h.same
  simp only [limits, Frame.scrollLimits, ScrollLimits.compute, ScrollLimits.computeLeft,
    ScrollLimits.computeTop, h.rowCount_eq, hcolumns, hconfig, hwidth, hheight]

end Scrolls

/-! ### Drawing and selecting -/

namespace Roams

theorem deed {d : Deed α} (hd : d.isHarmless = true) (m : Model α σ) :
  m.Roams (m.act d)
  := Acts.deed hd m

theorem draw (m : Model α σ) (o : Overlays α) :
  m.Roams { m with overlays := o }
  := deed (rfl : (Deed.draw o).isHarmless = true) m

theorem select (m : Model α σ) (s : Selection) :
  m.Roams (m.select s)
  := deed (rfl : (Deed.select s : Deed α).isHarmless = true) m

theorem selectIfNew (m : Model α σ) (s : Selection) :
  m.Roams (m.selectIfNew s)
  := by
  rw [Model.selectIfNew]
  split
  · apply Acts.refl
  · apply select

end Roams

/-! ### What deeds keep -/

theorem tracks_act (m : Model α σ) (d : Deed α) :
  m.Tracks (m.act d)
  := by
  cases d with
  | scroll left top => apply tracks_scrollTo
  | draw o => exact .same rfl rfl
  | hover cell => exact .same rfl rfl
  | select s => apply tracks_select
  | resize id width => apply tracks_setColumnWidth
  | noteResize id before after => apply tracks_emit
  | fixColumns count => apply tracks_setFixedColumns
  | fixRows count => apply tracks_setFixedRows
  | move start count target => apply tracks_moveColumns
  | askForMenu point gridCell dataCell => apply tracks_emit

/-- All deeds keep a model coherent. -/
theorem Acts.tracks (h : m.Acts may m') :
  m.Tracks m'
  := by
  apply h.keeps (M := m.Tracks) _ (Tracks.refl m)
  intro m' d _ ih
  apply ih.trans (tracks_act m' d)

end Model

end DataGrid
