import DataGrid.Proofs.Feature.DropBar
import DataGrid.Proofs.Grid.ColumnDrag
import DataGrid.Proofs.Columns.Positions

/-!
# What the drop bar tells

Whenever columns are held, the drop bar stands in front of the column before which a release would
put them, or where they are if no place is picked (`Grid.tellsDrop_of_press`).  A release moves them
there exactly if they are shown columns, all of them.  A selection that a grid keeps while columns
are taken away may reach over more columns than there are, and a run of columns is taken hold of as
the selection says (`Grid.drops_nothing_beyond_shown`).
-/

namespace DataGrid

variable {α σ : Type} [Pixel α] [DataSource σ]

namespace Grid

/-- The drop bar of a grid on which columns are held stands where they would be put.  No place is
picked before the first drag. -/
structure ShowsDrop (g : Grid α σ (BuiltIn α)) (d : ColumnDrag α) : Prop where
  holds : ∃ k s, g.pipeline.Holds k s ∧ s.drag? = some d ∧ (s = .armed d → d.target = none)
  shows : ColumnMoving.ShowsDrop g.model d

namespace ShowsDrop

variable {g : Grid α σ (BuiltIn α)} {d : ColumnDrag α}

omit [DataSource σ] in
theorem columnDrag?_eq (h : g.ShowsDrop d) :
  g.columnDrag? = some d
  := by
  obtain ⟨k, s, holds, hd, -⟩ := h.holds
  apply holds.columnDrag?_eq hd

/-- Drags and ticks keep it so, and they keep the columns that are held and the order. -/
theorem perform [LawfulPixel α] (h : g.ShowsDrop d) {c : Call α σ} (hc : c.isBetween = true) :
  ∃ d', (g.perform c).grid.ShowsDrop d' ∧ d'.start = d.start ∧ d'.count = d.count
    ∧ (g.perform c).grid.model.columns.shown = g.model.columns.shown
  := by
  obtain ⟨k, s, holds, hd, early⟩ := h.holds
  obtain ⟨s', m', holds', moves, hmodel⟩ := moves_perform holds hd hc
  have hframe := Model.silent_eq_of_still_eq hmodel
  obtain ⟨d', hd', follows⟩ := moves.follows hd
  obtain ⟨_, hd'', shows⟩ := h.shows.moves hd moves
  obtain rfl := Option.some.inj (hd''.symm.trans hd')
  refine ⟨_, ⟨⟨k, s', holds', hd', ?_⟩, ?_⟩, follows.start_eq, follows.count_eq, ?_⟩
  · rintro rfl
    cases moves with
    | rest =>
      obtain rfl := Option.some.inj hd
      apply early rfl
  · apply shows.congr hframe (Model.overlays_eq_of_still_eq hmodel)
  · apply (congrArg (fun f => f.columns.shown) hframe).trans follows.shown_eq

theorem run [LawfulPixel α] (h : g.ShowsDrop d) {moves : List (Call α σ)}
    (hmoves : ∀ c ∈ moves, c.isBetween = true) :
  ∃ d', (g.run moves).ShowsDrop d' ∧ d'.start = d.start ∧ d'.count = d.count
    ∧ (g.run moves).model.columns.shown = g.model.columns.shown
  := by
  induction moves generalizing g d with
  | nil => exact ⟨d, h, rfl, rfl, rfl⟩
  | cons c moves ih =>
    obtain ⟨d₁, h₁, start_eq, count_eq, shown_eq⟩ := h.perform (hmoves c List.mem_cons_self)
    obtain ⟨d', h', start_eq', count_eq', shown_eq'⟩ :=
      ih h₁ fun c hc => hmoves c (List.mem_cons_of_mem _ hc)
    exact ⟨d', h', start_eq'.trans start_eq, count_eq'.trans count_eq, shown_eq'.trans shown_eq⟩

/-- A release moves the held columns before the place that is picked, as far as columns can be
moved. -/
theorem shown_perform_up (h : g.ShowsDrop d) (point : Point α) (button : Button)
    (modifiers : Modifiers) :
  (g.perform (.pointer .up point button modifiers)).grid.model.columns.shown
    = (d.target.bind fun target =>
        moveRun? g.model.columns.shown d.start d.count target).getD g.model.columns.shown
  := by
  obtain ⟨k, s, holds, hd, early⟩ := h.holds
  obtain ⟨-, hmodel⟩ := g.perform_pointer_eq .up point button modifiers
  have hshown := congrArg (fun f => f.columns.shown) (Model.silent_eq_of_still_eq hmodel)
  rw [holds.dispatch_up hd g.model g.now (g.pointerEvent point button modifiers)] at hshown
  apply hshown.trans
  cases s with
  | idle => cases hd
  | armed _ =>
    obtain rfl := Option.some.inj hd
    rw [early rfl]
    rfl
  | dragging _ =>
    obtain rfl := Option.some.inj hd
    apply ColumnMoving.shown_drop

end ShowsDrop

omit [DataSource σ] in
/-- A press that takes hold of columns draws the drop bar where they are. -/
theorem Seized.showsDrop [LawfulPixel α] {g g' : Grid α σ (BuiltIn α)} {d : ColumnDrag α}
    (h : g.Seized g' d) (hplaced : g.model.toFrame.HasPlacedColumns)
    (hwidths : g.model.columns.HasLengths) :
  g'.ShowsDrop d
  := by
  obtain ⟨k, s, holds, hd⟩ := h.holds
  obtain ⟨column, hcolumn, i, hslot, hfixed⟩ := h.scrolling
  have hroom : g.model.toFrame.HasRoom := Frame.hasRoom_of_mem hplaced hwidths hcolumn hslot hfixed
  refine ⟨⟨k, s, holds, hd, fun _ => h.target_eq⟩, ?_⟩
  constructor
  case room =>
    apply Frame.hasRoom_silent_iff.mp
    rw [h.frame_eq]
    apply Frame.hasRoom_silent_iff.mpr hroom
  case dropBar_eq =>
    rw [h.dropBar_eq, h.target_eq, Option.getD_none, ColumnMoving.dropBar_congr h.frame_eq]
  case target_le =>
    intro target htarget
    rw [h.target_eq] at htarget
    cases htarget
  case comparable =>
    intro hscrolls
    rw [h.autoscroll_eq] at hscrolls
    cases hscrolls

/-- What the drop bar tells of a grid on which `count` columns from `start` on are held, before
`target` if that is picked, and of the grid after a release. -/
structure TellsDrop (held released : Grid α σ (BuiltIn α)) (start count : Nat)
    (target : Option Nat) : Prop where
  dropBar_eq : held.model.overlays.dropBar
    = some (ColumnMoving.dropBar held.model (target.getD start))
  stays : target = none → released.model.columns.shown = held.model.columns.shown
  /-- The columns are moved before the place if all of them are shown columns. -/
  moves_iff : ∀ {place : Nat}, target = some place →
    (moveRun? held.model.columns.shown start count place = some released.model.columns.shown
      ↔ start + count ≤ held.model.columns.shownCount)
  stays_beyond : held.model.columns.shownCount < start + count →
    released.model.columns.shown = held.model.columns.shown

theorem ShowsDrop.tellsDrop {g : Grid α σ (BuiltIn α)} {d : ColumnDrag α} (h : g.ShowsDrop d)
    (hcount : 0 < d.count) (point : Point α) (button : Button) (modifiers : Modifiers) :
  g.TellsDrop (g.perform (.pointer .up point button modifiers)).grid d.start d.count d.target
  := by
  have hshown := h.shown_perform_up point button modifiers
  constructor
  case dropBar_eq => apply h.shows.dropBar_eq
  case stays =>
    intro hnone
    rw [hshown, hnone]
    rfl
  case moves_iff =>
    intro place hplace
    constructor
    · intro hmoved
      apply (bounds_of_moveRun? hmoved).2.1
    · intro hrun
      obtain ⟨next, hnext⟩ := exists_moveRun? hcount hrun (h.shows.target_le hplace)
      rw [hshown, hplace, Option.bind_some, hnext]
      rfl
  case stays_beyond =>
    intro hbeyond
    rw [hshown]
    cases d.target with
    | none => rfl
    | some place =>
      have hnone : moveRun? g.model.columns.shown d.start d.count place = none := by
        apply if_neg
        rintro ⟨-, hrun, -⟩
        cases Nat.not_lt_of_le hrun hbeyond
      rw [Option.bind_some, hnone]
      rfl

/-- The drop bar is drawn by the press that takes hold of columns, and drags and ticks keep it where
they would be put. -/
theorem showsDrop_of_press [LawfulPixel α] {g : Grid α σ (BuiltIn α)} (hg : g.IsReachable)
    (hrest : ∀ f ∈ g.pipeline.features, f.isDragging = false)
    (hwidths : g.model.columns.HasLengths) {point : Point α} {button : Button}
    {modifiers : Modifiers} {d : ColumnDrag α}
    (hd : (g.perform (.pointer .down point button modifiers)).grid.columnDrag? = some d)
    {moves : List (Call α σ)} (hmoves : ∀ c ∈ moves, c.isBetween = true) :
  let held := (g.perform (.pointer .down point button modifiers)).grid.run moves
  0 < d.count ∧ held.model.columns.shown = g.model.columns.shown
    ∧ ∃ d', held.ShowsDrop d' ∧ d'.start = d.start ∧ d'.count = d.count
  := by
  intro held
  have seized := seized_of_press hg hrest hd
  obtain ⟨d', hshows, start_eq, count_eq, shown_eq⟩ :=
    (seized.showsDrop hg.hasPlacedColumns hwidths).run hmoves
  have hshown := congrArg (fun f => f.columns.shown) seized.frame_eq
  exact ⟨seized.count_pos, shown_eq.trans hshown, d', hshows, start_eq, count_eq⟩

/-- After a press that takes hold of columns, and after any drags and ticks that follow, the drop
bar stands in front of the place that is picked for them, or in front of the first of them if none
is.  A release moves them before that place if all of them are shown columns, and moves nothing
otherwise. -/
theorem tellsDrop_of_press [LawfulPixel α] {g : Grid α σ (BuiltIn α)} (hg : g.IsReachable)
    (hrest : ∀ f ∈ g.pipeline.features, f.isDragging = false)
    (hwidths : g.model.columns.HasLengths) {point : Point α} {button : Button}
    {modifiers : Modifiers} {d : ColumnDrag α}
    (hd : (g.perform (.pointer .down point button modifiers)).grid.columnDrag? = some d)
    {moves : List (Call α σ)} (hmoves : ∀ c ∈ moves, c.isBetween = true) (point' : Point α)
    (button' : Button) (modifiers' : Modifiers) :
  let held := (g.perform (.pointer .down point button modifiers)).grid.run moves
  let released := (held.perform (.pointer .up point' button' modifiers')).grid
  held.model.columns.shown = g.model.columns.shown
    ∧ ∃ d', held.columnDrag? = some d' ∧ d'.start = d.start ∧ d'.count = d.count
      ∧ held.TellsDrop released d.start d.count d'.target
  := by
  intro held released
  obtain ⟨hcount, hshown, d', hshows, start_eq, count_eq⟩ :=
    showsDrop_of_press hg hrest hwidths hd hmoves
  refine ⟨hshown, d', hshows.columnDrag?_eq, start_eq, count_eq, ?_⟩
  have htells := hshows.tellsDrop (count_eq ▸ hcount) point' button' modifiers'
  rw [start_eq, count_eq] at htells
  exact htells

/-- The first of five columns is scrolled out, and the third is dragged over the second.  The bar
stands in front of the second, and there the column is put. -/
theorem tellsDrop_of_press_table :
  let g : Grid Rat Table (BuiltIn Rat) :=
    (ofPipeline (Table.generate 5 2 fun x y => .text (toString (x + y)))
      (ColumnSchema.ofNames ["a", "b", "c", "d", "e"]) Config.default
      (.ofFeatures BuiltIn.all)).run [.resizeViewport 290 200, .scrollTo 1 0]
  let pressed := (g.perform (.pointer .down ⟨150, 5⟩ .primary .none)).grid
  let moves : List (Call Rat Table) := [.pointer .drag ⟨60, 5⟩ .primary .none, .tick 1]
  let held := pressed.run moves
  let released := (held.perform (.pointer .up ⟨60, 5⟩ .primary .none)).grid
  g.IsReachable
    ∧ (∀ f ∈ g.pipeline.features, f.isDragging = false) ∧ g.model.columns.HasLengths
    ∧ (∀ c ∈ moves, c.isBetween = true)
    ∧ (∃ d d', pressed.columnDrag? = some d ∧ (d.start, d.count) = (2, 1)
      ∧ held.columnDrag? = some d' ∧ d'.target = some 1
      ∧ held.TellsDrop released d.start d.count d'.target)
    ∧ held.model.overlays.dropBar.map (·.x) = some 40
    ∧ held.model.columns.shown = g.model.columns.shown
    ∧ released.model.columns.shown = [.data 0, .data 2, .data 1, .data 3, .data 4]
  := by
  intro g pressed moves held released
  have hg : g.IsReachable := .run (.new _ _ _ Pipeline.ofNames_defaultFeatures) _
  have hrest : ∀ f ∈ g.pipeline.features, f.isDragging = false := by decide
  have hcolumns : g.model.columns.column? =
      (Columns.ofSchema (ColumnSchema.ofNames ["a", "b", "c", "d", "e"])
        (Config.default : Config Rat)).column? := by
    simp only [g]
    cbv
  have hwidths : g.model.columns.HasLengths :=
    ((Columns.hasPositiveWidths_ofSchema_default _).hasWidths.congr hcolumns).hasLengths
  have hmoves : ∀ c ∈ moves, c.isBetween = true := by decide
  have hpressed : (pressed.columnDrag?.map fun d => (d.start, d.count)) = some (2, 1) := by
    simp only [g, pressed]
    cbv
  have hheld : (held.columnDrag?.map (·.target), held.model.overlays.dropBar.map (·.x),
      held.model.columns.shown)
      = (some (some 1), some 40, [.data 0, .data 1, .data 2, .data 3, .data 4]) := by
    simp only [g, pressed, moves, held]
    cbv
  simp only [Prod.mk.injEq] at hheld
  obtain ⟨htarget, hbar, hshown⟩ := hheld
  obtain ⟨d, hd, hrun⟩ := Option.map_eq_some_iff.mp hpressed
  obtain ⟨hstart, hcount⟩ := Prod.mk.inj hrun
  obtain ⟨hsame, d', hd', -, -, htells⟩ := tellsDrop_of_press hg hrest hwidths hd hmoves ⟨60, 5⟩
    .primary .none
  rw [hd'] at htarget
  have hplace : d'.target = some 1 := Option.some.inj htarget
  refine ⟨hg, hrest, hwidths, hmoves, ⟨d, d', hd, hrun, hd', hplace, htells⟩, hbar, hsame, ?_⟩
  have hfits : d.start + d.count ≤ held.model.columns.shownCount := by
    rw [hstart, hcount, Columns.shownCount, hshown]
    decide
  have hmoved := (htells.moves_iff hplace).mpr hfits
  rw [hstart, hcount, hshown] at hmoved
  exact (Option.some.inj hmoved).symm

/-- Of six columns the last four are selected, and the last two are taken away.  The selection stays
as it is, so a press on the third column takes hold of four columns from there on.  They are dragged
to the left edge, and the drop bar stands there, but the release moves nothing. -/
theorem drops_nothing_beyond_shown :
  let control : Modifiers := { Modifiers.none with ctrl := true }
  let shift : Modifiers := { Modifiers.none with shift := true }
  let g : Grid Rat Table (BuiltIn Rat) :=
    (ofPipeline (Table.generate 6 3 fun x y => .text (toString (x + y)))
      (ColumnSchema.ofNames ["a", "b", "c", "d", "e", "f"]) Config.default
      (.ofFeatures BuiltIn.all)).run [.resizeViewport 800 400,
        .pointer .down ⟨250, 5⟩ .primary control, .pointer .up ⟨250, 5⟩ .primary .none,
        .pointer .down ⟨550, 5⟩ .primary shift, .pointer .up ⟨550, 5⟩ .primary .none,
        .hideColumns .all [4, 5]]
  let pressed := (g.perform (.pointer .down ⟨250, 5⟩ .primary .none)).grid
  let held := pressed.run [.pointer .drag ⟨60, 5⟩ .primary .none]
  let released := (held.perform (.pointer .up ⟨60, 5⟩ .primary .none)).grid
  g.IsReachable
    ∧ (∀ f ∈ g.pipeline.features, f.isDragging = false) ∧ g.model.columns.HasLengths
    ∧ (∃ d, held.columnDrag? = some d ∧ d.start = 2 ∧ d.count = 4 ∧ d.target = some 0)
    ∧ held.model.overlays.dropBar = some (ColumnMoving.dropBar held.model 0)
    ∧ held.model.columns.shown = [.data 0, .data 1, .data 2, .data 3]
    ∧ released.model.columns.shown = held.model.columns.shown
    ∧ released.model.columns.shown ≠ [.data 2, .data 3, .data 0, .data 1]
    ∧ moveRun? held.model.columns.shown 2 4 0 ≠ some released.model.columns.shown
  := by
  intro control shift g pressed held released
  have hg : g.IsReachable := .run (.new _ _ _ Pipeline.ofNames_defaultFeatures) _
  have hrest : ∀ f ∈ g.pipeline.features, f.isDragging = false := by
    have hall : (g.pipeline.features.all fun f => !f.isDragging) = true := by
      simp only [g, control, shift]
      cbv
    intro f hf
    simpa using List.all_eq_true.mp hall f hf
  have hcolumns : g.model.columns.column? =
      (Columns.ofSchema (ColumnSchema.ofNames ["a", "b", "c", "d", "e", "f"])
        (Config.default : Config Rat)).column? := by
    simp only [g, control, shift]
    cbv
  have hwidths : g.model.columns.HasLengths :=
    ((Columns.hasPositiveWidths_ofSchema_default _).hasWidths.congr hcolumns).hasLengths
  have hmoves : ∀ c ∈ [(.pointer .drag ⟨60, 5⟩ .primary .none : Call Rat Table)],
      c.isBetween = true := by decide
  have hpressed : pressed.columnDrag?.isSome = true := by
    simp only [g, control, shift, pressed]
    cbv
  have hheld : (held.columnDrag?.map fun d => (d.start, d.count, d.target),
      held.model.columns.shown)
      = (some (2, 4, some 0), [.data 0, .data 1, .data 2, .data 3]) := by
    simp only [g, control, shift, pressed, held]
    cbv
  -- all that has to be computed is known now
  clear_value g
  simp only [Prod.mk.injEq] at hheld
  obtain ⟨hrun, hshown⟩ := hheld
  obtain ⟨d₀, hd₀⟩ := Option.isSome_iff_exists.mp hpressed
  obtain ⟨hpos, -, d, hshows, -, hcount₀⟩ := showsDrop_of_press hg hrest hwidths hd₀ hmoves
  rw [hshows.columnDrag?_eq, Option.map_some, Option.some.injEq] at hrun
  simp only [Prod.mk.injEq] at hrun
  obtain ⟨hstart, hcount, htarget⟩ := hrun
  have htells := hshows.tellsDrop (hcount₀ ▸ hpos) ⟨60, 5⟩ .primary .none
  have hbar := htells.dropBar_eq
  rw [htarget] at hbar
  have hsame : released.model.columns.shown = held.model.columns.shown := by
    apply htells.stays_beyond
    rw [hstart, hcount, Columns.shownCount, hshown]
    decide
  refine ⟨hg, hrest, hwidths, ⟨d, hshows.columnDrag?_eq, hstart, hcount, htarget⟩, hbar, hshown,
    hsame, ?_, ?_⟩
  · rw [hsame, hshown]
    decide
  · rw [hsame, hshown]
    decide

end Grid

end DataGrid
