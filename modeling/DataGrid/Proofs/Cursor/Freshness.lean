import Mathlib
import DataGrid.Proofs.Scene.Overrides

/-!
# What a cursor remembers is never out of date

A cursor keeps the properties, the text and the rectangle of its cell once they have been asked for,
and each way of using it forgets some of them.  What it keeps is always what it would work out anew
(`Cursor.IsFresh`): this holds of a new cursor and of a fork, and every use keeps it
(`Cursor.IsFresh.use`).  So whatever has been read and written through a cursor before, it answers
as one does that is bound alike and remembers nothing (`Cursor.read_after_eq_forgetful`).
-/

namespace DataGrid.Cursor

variable {α : Type}

/-! ### Using a cursor -/

/-- What can be asked of a cursor. -/
inductive Question where
  | properties
  | value
  | text
  | bounds

/-- What a cursor says. -/
inductive Answer (α : Type) where
  | properties (p : Properties)
  | value (v : CellValue)
  | text (t : String)
  | bounds (r : Rect α)

/-- Ask a cursor; one that is on no cell has no answer. -/
def read [Pixel α] (c : Cursor α) (s : Scene α Table) (q : Question) :
    Option (Answer α) × Cursor α :=
  match c.binding? with
  | none => (none, c)
  | some b =>
    match q with
    | .properties => (some (.properties (c.properties b s).1), (c.properties b s).2)
    | .value => (some (.value (c.value b s).1), (c.value b s).2)
    | .text => (some (.text (c.text b s).1), (c.text b s).2)
    | .bounds => (some (.bounds (c.bounds b s).1), (c.bounds b s).2)

/-- What can be done with a cursor. -/
inductive Use where
  | goToGrid (x : Slot) (y : Nat)
  | goToData (x : ColumnId) (y : Nat) (band : Band)
  | read (q : Question)
  | setValue (value : CellValue)
  | setProperty (name : String) (value : Json)

/-- A cursor and its scene after something was written, or as they were if nothing was. -/
def written (c : Cursor α) (s : Scene α Table) (result? : Option (Cursor α × Table)) :
    Cursor α × Scene α Table :=
  match result? with
  | some (c', data) => (c', { s with data := data })
  | none => (c, s)

/-- Use a cursor once.  Only what is written changes the scene. -/
def use [Pixel α] (c : Cursor α) (s : Scene α Table) : Use → Cursor α × Scene α Table
  | .goToGrid x y => ((c.goToGrid s x y).2, s)
  | .goToData x y band => ((c.goToData s x y band).2, s)
  | .read q => ((c.read s q).2, s)
  | .setValue value => c.written s (c.setValue? s.data value)
  | .setProperty name value => c.written s (c.setProperty? s.data s.columns name value)

/-- A cursor and its scene after the cursor has been used again and again. -/
def after [Pixel α] (c : Cursor α) (s : Scene α Table) : List Use → Cursor α × Scene α Table
  | [] => (c, s)
  | u :: rest => after (c.use s u).1 (c.use s u).2 rest

/-- A cursor that has just been made, on no cell or as a fork of any other. -/
inductive IsNew : Cursor α → Prop where
  | unbound : IsNew unbound
  | fork (c : Cursor α) (s : Scene α Table) (copyOwn : Bool) : IsNew (c.fork s copyOwn)

/-- A cursor on the same cell, with the same properties of its own, that remembers nothing else. -/
def forgetful (c : Cursor α) : Cursor α := ⟨c.binding?, c.own?, none, none, none⟩

/-- Both ways to go to a place on the grid lead to the same cell. -/
theorem goToGrid_eq (c : Cursor α) (s : Scene α Table) (x : Slot) (y : Nat) :
  c.goToGrid s x y = ((toGrid? s x y).isSome, (toGrid? s x y).getD c)
  := by
  cases hx : s.layout.bySlot? x with
  | none => simp [goToGrid, toGrid?, Binding.ofGrid?, hx]
  | some column =>
    cases hy : s.layout.rows[y]? with
    | none => simp [goToGrid, toGrid?, Binding.ofGrid?, hx, hy]
    | some row => simp [goToGrid, toGrid?, Binding.ofGrid?, hx, hy, rebind, invalidate, ofBinding]

/-- Both ways to go to a place in the table lead to the same cell. -/
theorem goToData_eq (c : Cursor α) (s : Scene α Table) (x : ColumnId) (y : Nat) (band : Band) :
  c.goToData s x y band = ((toData? s x y band).isSome, (toData? s x y band).getD c)
  := by
  cases hx : s.layout.byId? x with
  | none => simp [goToData, toData?, Binding.ofData?, hx]
  | some column =>
    cases hy : s.layout.byRow? y band with
    | none => simp [goToData, toData?, Binding.ofData?, hx, hy]
    | some row => simp [goToData, toData?, Binding.ofData?, hx, hy, rebind, invalidate, ofBinding]

/-! ### What is remembered -/

/-- All that a cursor remembers of its cell is what it would work out now. -/
structure IsFresh [Pixel α] (c : Cursor α) (s : Scene α Table) : Prop where
  properties : ∀ b ∈ c.binding?, ∀ p ∈ c.properties?, p = b.properties s c.own?
  text : ∀ b ∈ c.binding?, ∀ t ∈ c.text?, t = b.text s (b.properties s c.own?)
  bounds : ∀ b ∈ c.binding?, ∀ r ∈ c.bounds?, r = b.bounds s

variable [Pixel α] {c : Cursor α} {s : Scene α Table} {b : Binding α}

/-- A cursor that remembers nothing is not out of date. -/
theorem IsFresh.of_none (hproperties : c.properties? = none) (htext : c.text? = none)
    (hbounds : c.bounds? = none) :
  c.IsFresh s
  := by
  constructor
  case properties =>
    rw [hproperties]
    rintro b - p ⟨⟩
  case text =>
    rw [htext]
    rintro b - t ⟨⟩
  case bounds =>
    rw [hbounds]
    rintro b - r ⟨⟩

theorem IsFresh.forgetful (c : Cursor α) (s : Scene α Table) :
  c.forgetful.IsFresh s
  := of_none rfl rfl rfl

theorem IsNew.isFresh (hc : c.IsNew) (s : Scene α Table) :
  c.IsFresh s
  := by
  cases hc with
  | unbound => exact .of_none rfl rfl rfl
  | fork c s' copyOwn => exact .of_none rfl rfl rfl

/-! ### Reading -/

/-- The properties that a cursor gives, and what it remembers then. -/
theorem IsFresh.properties_eq (hc : c.IsFresh s) (hb : c.binding? = some b) :
  c.properties b s
    = (b.properties s c.own?, { c with properties? := some (b.properties s c.own?) })
  := by
  unfold Cursor.properties
  split
  case h_1 p hp =>
    obtain rfl := hc.properties b hb p hp
    rw [← hp]
  case h_2 => rfl

/-- What was worked out may be remembered. -/
theorem IsFresh.remember_properties (hc : c.IsFresh s) (hb : c.binding? = some b) :
  IsFresh { c with properties? := some (b.properties s c.own?) } s
  := by
  constructor
  case properties =>
    rintro b' hb' p ⟨⟩
    rw [Option.some.inj (hb.symm.trans hb')]
  case text => exact hc.text
  case bounds => exact hc.bounds

/-- The value that a cursor gives is that of its cell, and it is not out of date then. -/
theorem IsFresh.value_eq (hc : c.IsFresh s) (hb : c.binding? = some b) :
  (c.value b s).1 = b.value s (if b.valueIsProperty then b.properties s c.own? else .empty)
    ∧ (c.value b s).2.IsFresh s
  := by
  unfold Cursor.value
  split
  · rw [hc.properties_eq hb]
    exact ⟨rfl, hc.remember_properties hb⟩
  · exact ⟨rfl, hc⟩

/-- The text that a cursor gives is that of its cell, and it is not out of date then. -/
theorem IsFresh.text_eq (hc : c.IsFresh s) (hb : c.binding? = some b) :
  (c.text b s).1 = b.text s (b.properties s c.own?) ∧ (c.text b s).2.IsFresh s
  := by
  unfold Cursor.text
  split
  case h_1 t ht => exact ⟨hc.text b hb t ht, hc⟩
  case h_2 =>
    rw [hc.properties_eq hb]
    refine ⟨rfl, ?_⟩
    have hp := hc.remember_properties hb
    constructor
    case properties => exact hp.properties
    case text =>
      rintro b' hb' t ⟨⟩
      rw [Option.some.inj (hb.symm.trans hb')]
    case bounds => exact hp.bounds

/-- The rectangle that a cursor gives is that of its cell, and it is not out of date then. -/
theorem IsFresh.bounds_eq (hc : c.IsFresh s) (hb : c.binding? = some b) :
  (c.bounds b s).1 = b.bounds s ∧ (c.bounds b s).2.IsFresh s
  := by
  unfold Cursor.bounds
  split
  case h_1 r hr => exact ⟨hc.bounds b hb r hr, hc⟩
  case h_2 =>
    refine ⟨rfl, ?_⟩
    constructor
    case properties => exact hc.properties
    case text => exact hc.text
    case bounds =>
      rintro b' hb' r ⟨⟩
      rw [Option.some.inj (hb.symm.trans hb')]

/-- A cursor that is not out of date answers as one that remembers nothing. -/
theorem IsFresh.read_eq (hc : c.IsFresh s) (q : Question) :
  (c.read s q).1 = (c.forgetful.read s q).1
  := by
  have hf := IsFresh.forgetful c s
  unfold Cursor.read
  cases hb : c.binding? with
  | none =>
    have hb' : c.forgetful.binding? = none := hb
    rw [hb']
  | some b =>
    have hb' : c.forgetful.binding? = some b := hb
    rw [hb']
    cases q with
    | properties =>
      dsimp only
      rw [hc.properties_eq hb, hf.properties_eq hb']
      rfl
    | value =>
      dsimp only
      rw [(hc.value_eq hb).1, (hf.value_eq hb').1]
      rfl
    | text =>
      dsimp only
      rw [(hc.text_eq hb).1, (hf.text_eq hb').1]
      rfl
    | bounds =>
      dsimp only
      rw [(hc.bounds_eq hb).1, (hf.bounds_eq hb').1]

/-- Asking a cursor does not put it out of date. -/
theorem IsFresh.read (hc : c.IsFresh s) (q : Question) :
  (c.read s q).2.IsFresh s
  := by
  unfold Cursor.read
  cases hb : c.binding? with
  | none => exact hc
  | some b =>
    cases q with
    | properties =>
      dsimp only
      rw [hc.properties_eq hb]
      exact hc.remember_properties hb
    | value => exact (hc.value_eq hb).2
    | text => exact (hc.text_eq hb).2
    | bounds => exact (hc.bounds_eq hb).2

/-! ### Writing -/

/-- A value in the table is no part of the properties and the rectangle of a cell, so a cursor that
has written one only forgets the text. -/
theorem IsFresh.setValue (hc : c.IsFresh s) {value : CellValue} {c' : Cursor α} {data : Table}
    (h : c.setValue? s.data value = some (c', data)) :
  c'.IsFresh { s with data := data }
  := by
  obtain ⟨b, hb, h⟩ := Option.bind_eq_some_iff.mp h
  split at h
  · obtain ⟨rfl, rfl⟩ := Prod.mk.inj (Option.some.inj h)
    constructor
    case properties => exact hc.properties
    case text => rintro b' - t ⟨⟩
    case bounds => exact hc.bounds
  · cases h

/-- The properties of rows are no part of the rectangle of a cell. -/
theorem bounds_withRowProperties (b : Binding α) (y : Nat) (p : Properties) :
  b.bounds (s.withRowProperties y p) = b.bounds s
  := by
  have hspan : b.span (s.withRowProperties y p) = b.span s := by
    simp only [Binding.span, Scene.span_withRowProperties]
  rw [Binding.bounds, hspan]
  rfl

/-- A cursor that has written a property only remembers the rectangle. -/
theorem IsFresh.setProperty (hc : c.IsFresh s) {name : String} {value : Json} {c' : Cursor α}
    {data : Table} (h : c.setProperty? s.data s.columns name value = some (c', data)) :
  c'.IsFresh { s with data := data }
  := by
  obtain ⟨b, hb, h'⟩ := Option.bind_eq_some_iff.mp h
  obtain ⟨column, -, hdata⟩ := data_of_setProperty? hb h
  split at h'
  · obtain ⟨_, -, h'⟩ := Option.map_eq_some_iff.mp h'
    obtain ⟨rfl, -⟩ := Prod.mk.inj h'
    constructor
    case properties => rintro b' - p ⟨⟩
    case text => rintro b' - t ⟨⟩
    case bounds =>
      rw [hdata]
      intro b' hb' r hr
      rw [bounds_withRowProperties]
      exact hc.bounds b' hb' r hr
  · cases h'

/-- If nothing was written, the cursor and the scene are as they were. -/
theorem IsFresh.written (hc : c.IsFresh s) {result? : Option (Cursor α × Table)}
    (h : ∀ c' data, result? = some (c', data) → c'.IsFresh { s with data := data }) :
  (c.written s result?).1.IsFresh (c.written s result?).2
  := by
  cases result? with
  | none => exact hc
  | some result => exact h result.1 result.2 rfl

/-! ### Every use -/

/-- A cursor that goes to another cell has worked out nothing about it, and one that does not go
stays as it was. -/
theorem IsFresh.getD_map_ofBinding (hc : c.IsFresh s) (b? : Option (Binding α)) :
  ((b?.map fun b => ofBinding b none).getD c).IsFresh s
  := by
  cases b? with
  | none => exact hc
  | some b => exact .of_none rfl rfl rfl

/-- No use puts a cursor out of date. -/
theorem IsFresh.use (hc : c.IsFresh s) (u : Use) :
  (c.use s u).1.IsFresh (c.use s u).2
  := by
  cases u with
  | goToGrid x y =>
    simp only [Cursor.use, goToGrid_eq]
    exact hc.getD_map_ofBinding _
  | goToData x y band =>
    simp only [Cursor.use, goToData_eq]
    exact hc.getD_map_ofBinding _
  | read q => exact hc.read q
  | setValue value => exact hc.written fun c' data h => hc.setValue h
  | setProperty name value => exact hc.written fun c' data h => hc.setProperty h

/-- A cursor is not out of date after any number of uses. -/
theorem IsFresh.after (hc : c.IsFresh s) (uses : List Use) :
  (c.after s uses).1.IsFresh (c.after s uses).2
  := by
  induction uses generalizing c s with
  | nil => exact hc
  | cons u rest ih => exact ih (hc.use u)

/-- Whatever a new cursor or a fork has been used for, it answers every question as a cursor on the
same cell with the same properties of its own that remembers nothing.  And where it says that it
cannot go to a place, it is the same cursor as before, with all that it remembers. -/
theorem read_after_eq_forgetful (hc : c.IsNew) (s : Scene α Table) (uses : List Use)
    {c' : Cursor α} {s' : Scene α Table} (h : c.after s uses = (c', s')) :
  (∀ q, (c'.read s' q).1 = (c'.forgetful.read s' q).1)
    ∧ (∀ x y, (c'.goToGrid s' x y).1 = false → (c'.goToGrid s' x y).2 = c')
    ∧ (∀ x y band, (c'.goToData s' x y band).1 = false → (c'.goToData s' x y band).2 = c')
  := by
  have hfresh := (hc.isFresh s).after uses
  rw [h] at hfresh
  refine ⟨hfresh.read_eq, ?_, ?_⟩
  · intro x y hno
    rw [goToGrid_eq] at hno ⊢
    rw [Option.isSome_eq_false_iff, Option.isNone_iff_eq_none] at hno
    rw [hno, Option.getD_none]
  · intro x y band hno
    rw [goToData_eq] at hno ⊢
    rw [Option.isSome_eq_false_iff, Option.isNone_iff_eq_none] at hno
    rw [hno, Option.getD_none]

/-- A fork with properties of its own is read, written through and read again.  Its cell has the new
property and the new value then, a cell that is not on the screen is no place to go to, and all that
the fork says is what one without a memory says. -/
theorem read_after_eq_forgetful_fork :
  let g : Grid Rat Table (BuiltIn Rat) := .ofPipeline
    (Table.generate 2 2 fun x y => .text (toString (x + y)))
    (ColumnSchema.ofNames ["A", "B"]) Config.default (.ofFeatures BuiltIn.all)
  let s := g.model.scene
  let c := (unbound.goToData s (.data 0) 1 .data).2.fork s true
  let uses := [.read .text, .read .bounds, .setProperty "unit" (.text "kg"), .read .properties,
    .setValue (.text "7")]
  ∃ c' s', c.after s uses = (c', s')
    ∧ c'.own?.bind (·.get? "unit") = some (.text "kg")
    ∧ DataSource.value s'.data 0 1 = .text "7"
    ∧ (c'.goToData s' (.data 2) 0 .data).1 = false
    ∧ (∀ q, (c'.read s' q).1 = (c'.forgetful.read s' q).1)
    ∧ (∀ x y, (c'.goToGrid s' x y).1 = false → (c'.goToGrid s' x y).2 = c')
    ∧ (∀ x y band, (c'.goToData s' x y band).1 = false → (c'.goToData s' x y band).2 = c')
  := by
  intro g s c uses
  have hnew : c.IsNew := .fork _ _ _
  have hrun : (fun r : Cursor Rat × Scene Rat Table =>
      (r.1.own?.bind (·.get? "unit"), DataSource.value r.2.data 0 1,
        (r.1.goToData r.2 (.data 2) 0 .data).1)) (c.after s uses)
        = (some (.text "kg"), .text "7", false) := by
    simp only [uses, c, s, g]
    cbv
  obtain ⟨hown, hrun⟩ := Prod.mk.inj hrun
  obtain ⟨hvalue, hno⟩ := Prod.mk.inj hrun
  exact ⟨_, _, rfl, hown, hvalue, hno, read_after_eq_forgetful hnew s uses rfl⟩

end DataGrid.Cursor
