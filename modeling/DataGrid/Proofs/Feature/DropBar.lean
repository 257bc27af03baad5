import DataGrid.Proofs.Feature.ColumnDrag
import DataGrid.Proofs.Frame.Room

/-!
# The drop bar

While columns are held, the drop bar stands in front of the column before which they would be put,
or, as long as no place is picked, in front of the first of them (`ColumnMoving.ShowsDrop`).  A drag
picks a place and draws the bar, or it does neither, and so does a step of scrolling.  A step that
leads anywhere lays the grid out anew, so there the bar has to be drawn again: a column that scrolls
is on the screen, and a place is always found.
-/

namespace DataGrid

variable {α σ : Type} [Pixel α] [DataSource σ]

namespace ColumnMoving

/-- The drop bar stands where held columns would be put.  There is room for columns that scroll, a
place lies within the shown columns, and only a position that can be compared makes the grid
scroll. -/
structure ShowsDrop (m : Model α σ) (d : ColumnDrag α) : Prop where
  room : m.toFrame.HasRoom
  dropBar_eq : m.overlays.dropBar = some (dropBar m (d.target.getD d.start))
  target_le : ∀ {target : Nat}, d.target = some target → target ≤ m.columns.shownCount
  comparable : d.autoscroll.isSome = true → Pixel.Comparable d.pointer.x

section Steps

variable {m m' : Model α σ} {d : ColumnDrag α}

omit [DataSource σ] in
/-- What does not last of a model does not count. -/
theorem ShowsDrop.congr (h : ShowsDrop m d) (hframe : m'.toFrame.silent = m.toFrame.silent)
    (hoverlays : m'.overlays = m.overlays) :
  ShowsDrop m' d
  := by
  constructor
  case room =>
    apply Frame.hasRoom_silent_iff.mp
    rw [hframe]
    apply Frame.hasRoom_silent_iff.mpr h.room
  case dropBar_eq => rw [hoverlays, h.dropBar_eq, dropBar_congr hframe]
  case target_le =>
    intro target htarget
    have hcount := congrArg (fun f => f.columns.shownCount) hframe
    apply le_of_le_of_eq (h.target_le htarget) hcount.symm
  case comparable => apply h.comparable

omit [DataSource σ] in
/-- With a place that has just been picked the bar is drawn. -/
theorem showsDrop_aim_of_target? (hroom : m.toFrame.HasRoom) {target : Nat}
    (htarget : target? m d.pointer.x = some target)
    (hx : d.autoscroll.isSome = true → Pixel.Comparable d.pointer.x) :
  ShowsDrop (aim m d).1 (aim m d).2
  := by
  rw [aim, htarget]
  refine ⟨hroom, rfl, ?_, hx⟩
  rintro _ ⟨⟩
  apply (bounds_of_target? hroom.toHasPlacedColumns htarget).2

omit [DataSource σ] in
/-- A place is picked and the bar is drawn, or neither. -/
theorem ShowsDrop.aim (h : ShowsDrop m d) :
  ShowsDrop (aim m d).1 (aim m d).2
  := by
  cases htarget : target? m d.pointer.x with
  | none =>
    rw [ColumnMoving.aim, htarget]
    exact h
  | some target => apply showsDrop_aim_of_target? h.room htarget h.comparable

theorem hasRoom_of_scrollBy? (h : m.toFrame.HasRoom) {columns rows : Int}
    (hscroll : m.scrollBy? columns rows = some m') :
  m'.toFrame.HasRoom
  := by
  have hplaced := (Model.tracks_scrollBy? hscroll).hasPlacedColumns h.toHasPlacedColumns
  rw [Model.scrollBy?] at hscroll
  split at hscroll
  case isTrue =>
    obtain rfl := Option.some.inj hscroll
    apply h.scrolled hplaced rfl rfl rfl
  case isFalse => cases hscroll

variable [LawfulPixel α]

omit [DataSource σ] in
theorem exists_target? (h : m.toFrame.HasRoom) {x : α} (hx : Pixel.Comparable x) :
  ∃ target, target? m x = some target
  := by
  obtain ⟨i, hi⟩ := h.exists_nearestColumn? hx
  exact ⟨_, Option.map_eq_some_iff.mpr ⟨i, hi, rfl⟩⟩

/-- A step of scrolling lays the grid out anew and draws the bar again, or it changes nothing. -/
theorem ShowsDrop.scrollStep {t : GridTurn α σ} (h : ShowsDrop t.model d)
    (hx : Pixel.Comparable d.pointer.x) (direction : Int) (attempt : Nat) :
  ShowsDrop (scrollStep d direction attempt t).2.model (scrollStep d direction attempt t).1
  := by
  rw [ColumnMoving.scrollStep]
  split
  case h_1 => exact ⟨h.room, h.dropBar_eq, h.target_le, fun hscrolls => by cases hscrolls⟩
  case h_2 m hscroll =>
    have hroom := hasRoom_of_scrollBy? h.room hscroll
    obtain ⟨target, htarget⟩ := exists_target? hroom hx
    have haim := showsDrop_aim_of_target? (d := d) hroom htarget fun _ => hx
    refine ⟨haim.room, haim.dropBar_eq, haim.target_le, fun _ => ?_⟩
    change Pixel.Comparable (ColumnMoving.aim m d).2.pointer.x
    rw [ColumnMoving.aim, htarget]
    exact hx

/-- Only a position that can be compared is at an edge. -/
theorem comparable_of_edgeDirection? {x : α} {direction : Int}
    (h : edgeDirection? m x = some direction) :
  Pixel.Comparable x
  := by
  rw [edgeDirection?] at h
  split at h
  case isTrue hleft => exact (LawfulPixel.comparable_of_lt hleft.1).1
  case isFalse =>
    split at h
    case isTrue hright => exact (LawfulPixel.comparable_of_lt hright.1).2
    case isFalse => cases h

/-- Held columns that follow the pointer. -/
theorem ShowsDrop.follow {t : GridTurn α σ} (h : ShowsDrop t.model d) (e : PointerEvent α) :
  ShowsDrop (follow d e t).2.model (follow d e t).1
  := by
  have hshown : ∀ {x : Option Autoscroll}, (x.isSome = true → Pixel.Comparable e.point.x) →
      ShowsDrop (showFloater t.model { d.floater with x := e.point.x - d.grabOffset })
        { d with
          pointer := e.point
          floater := { d.floater with x := e.point.x - d.grabOffset }
          autoscroll := x } :=
    fun hx => ⟨h.room, h.dropBar_eq, h.target_le, hx⟩
  rw [ColumnMoving.follow]
  split
  case h_1 direction hdirection =>
    have hx := comparable_of_edgeDirection? hdirection
    split
    · exact hshown fun _ => hx
    · apply ShowsDrop.scrollStep (hshown fun _ => hx) hx
  case h_2 =>
    have hstill := hshown (x := none) fun hscrolls => by cases hscrolls
    dsimp only
    split
    · refine ⟨h.room, rfl, ?_, fun hscrolls => by cases hscrolls⟩
      rintro _ ⟨⟩
    · apply ShowsDrop.aim hstill

/-- The drop bar goes on telling where held columns would be put. -/
theorem ShowsDrop.moves {s s' : ColumnMoving α} (h : ShowsDrop m d) (hd : s.drag? = some d)
    (hmoves : Moves m s m' s') :
  ∃ d', s'.drag? = some d' ∧ ShowsDrop m' d'
  := by
  cases hmoves with
  | rest => exact ⟨d, hd, h⟩
  | follow held e model_eq =>
    obtain rfl := Option.some.inj (hd.symm.trans held)
    rw [← model_eq] at h
    exact ⟨_, rfl, h.follow e⟩
  | scroll dragging waiting model_eq =>
    rw [dragging] at hd
    obtain rfl := Option.some.inj hd
    rw [← model_eq] at h
    refine ⟨_, rfl, h.scrollStep (h.comparable ?_) _ _⟩
    rw [waiting]
    rfl

end Steps

/-! ### What a release makes of it -/

/-- Columns that are dropped are moved before the place that was picked for them, as far as columns
can be moved. -/
theorem shown_drop (d : ColumnDrag α) (m : Model α σ) :
  (drop d m).columns.shown
    = (d.target.bind fun target => moveRun? m.columns.shown d.start d.count target).getD
        m.columns.shown
  := by
  rw [drop]
  cases d.target with
  | none => rfl
  | some target =>
    dsimp only
    rw [Option.bind_some, ← Columns.shown_getD_move?]
    cases hmove : m.moveColumns? d.start d.count target with
    | none => rw [Option.map_eq_none_iff.mp hmove, Option.getD_none]
    | some m' =>
      rw [Model.move?_of_moveColumns? hmove, Option.getD_some, Model.toFrame_selectIfNew]

end ColumnMoving

end DataGrid
