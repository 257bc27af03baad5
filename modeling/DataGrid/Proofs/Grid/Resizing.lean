import DataGrid.Proofs.Feature.Resizing
import DataGrid.Proofs.Grid.Standard

/-!
# Resizing a column with the pointer

A press on the right edge of a column remembers the column, its width and where the pointer is.
From then on drags are for the feature that remembers, and every drag gives the column the width for
its place, computed from what was remembered (`Grid.Resizing.perform`).  So drags before the last
one leave no trace, wherever the columns have moved meanwhile, and a release tells listeners once
how the width has changed (`Grid.resizes_of_press`).
-/

namespace DataGrid

variable {α σ : Type}

/-- The place of the feature that resizes columns among the default features. -/
def resizingIndex : Nat := defaultFeatures.idxOf "column_resizing"

/-! ### The pipeline -/

namespace Pipeline

/-- The column whose edge is dragged. -/
def resizeDrag? (p : Pipeline (BuiltIn α)) : Option (ResizeDrag α) :=
  p.features.findSome? BuiltIn.resizeDrag?

/-- The feature that resizes columns sees inputs and drags an edge, and no other feature is in the
middle of a drag. -/
abbrev ResizesColumn (d : ResizeDrag α) (p : Pipeline (BuiltIn α)) : Prop :=
  p.DragsAlone resizingIndex fun f => ∃ overDivider, f = .columnResizing ⟨some d, overDivider⟩

section Names

variable {p : Pipeline (BuiltIn α)} (hnames : p.features.map BuiltIn.name = defaultFeatures)

include hnames

theorem exists_columnResizing :
  ∃ s, p.features[resizingIndex]? = some (.columnResizing s)
  := by
  obtain ⟨f, hf, hname⟩ := exists_of_names hnames (i := resizingIndex) rfl
  cases f with
  | columnResizing s => exact ⟨s, hf⟩
  | _ => simp [BuiltIn.name] at hname

theorem own_of_resizeDrag? {d : ResizeDrag α} (h : p.resizeDrag? = some d) :
  ∃ overDivider, p.features[resizingIndex]? = some (.columnResizing ⟨some d, overDivider⟩)
  := by
  obtain ⟨f, hmem, hdrag⟩ := List.exists_of_findSome?_eq_some h
  obtain ⟨i, hi⟩ := List.mem_iff_getElem?.mp hmem
  obtain ⟨s, hs⟩ := exists_columnResizing hnames
  cases f with
  | columnResizing s' =>
    obtain rfl := index_eq_of_name_eq hnames hi hs rfl
    obtain ⟨drag, overDivider⟩ := s'
    obtain rfl : drag = some d := hdrag
    exact ⟨overDivider, hi⟩
  | _ => cases hdrag

/-- In front of the feature that resizes columns stand the one for hovering and those that fix
columns and rows. -/
theorem cases_of_lt_resizingIndex {i : Nat} (hi : i < resizingIndex) {f : BuiltIn α}
    (hf : p.features[i]? = some f) :
  f = .hover ∨ (∃ s, f = .columnFixation s) ∨ ∃ s, f = .rowFixation s
  := by
  have hname := getElem?_name hnames hf
  have hindex : resizingIndex = 3 := by decide
  obtain rfl | rfl | rfl : i = 0 ∨ i = 1 ∨ i = 2 := by omega
  all_goals
    cases f with
    | hover => exact .inl rfl
    | columnFixation s => exact .inr (.inl ⟨s, rfl⟩)
    | rowFixation s => exact .inr (.inr ⟨s, rfl⟩)
    | _ => simp [BuiltIn.name, defaultFeatures] at hname

end Names

variable [Pixel α] [DataSource σ] {p : Pipeline (BuiltIn α)} {m : Model α σ} {now : Float}
  {e : PointerEvent α} {d : ResizeDrag α}

/-- A press is stopped by a feature that takes it in order to fix columns or rows. -/
theorem result_down_of_takesPress {f : BuiltIn α}
    (hf : f = .hover ∨ (∃ s, f = .columnFixation s) ∨ ∃ s, f = .rowFixation s)
    (h : BuiltIn.takesPress m e f = true) {t : GridTurn α σ} (ht : t.model = m) :
  (f.handle (.pointer .down e) t).result = .ok .stop
  := by
  subst ht
  obtain rfl | ⟨s, rfl⟩ | ⟨s, rfl⟩ := hf
  · cases h
  · rw [BuiltIn.takesPress] at h
    simp only [BuiltIn.handle, ColumnFixation.handle, h]
    rfl
  · rw [BuiltIn.takesPress] at h
    simp only [BuiltIn.handle, RowFixation.handle, h]
    rfl

/-- A press gets to the feature that resizes columns, or leaves it as it is. -/
theorem getsTo_resizing_or_eq (hnames : p.features.map BuiltIn.name = defaultFeatures)
    (hattached : resizingIndex < p.attachedCount) {f : BuiltIn α}
    (hf : p.features[resizingIndex]? = some f) (m : Model α σ) (now : Float)
    (e : PointerEvent α) :
  p.GetsTo m now (Input.pointer .down e) BuiltIn.afterPress resizingIndex
      (f.handle (.pointer .down e) (p.turn m resizingIndex now))
    ∨ (p.dispatch m now (Input.pointer .down e)).pipeline.features[resizingIndex]? = some f
  := by
  classical
  by_cases htaken : ∃ i, i < resizingIndex
      ∧ ∃ g, p.features[i]? = some g ∧ BuiltIn.takesPress m e g = true
  · -- the first feature that takes the press stops it
    right
    obtain ⟨hi, g, hg, htakes⟩ := Nat.find_spec htaken
    have hbefore {j : Nat} {g' : BuiltIn α} (hj : j < Nat.find htaken)
        (hg' : p.features[j]? = some g') : BuiltIn.takesPress m e g' = false := by
      by_contra hnot
      exact Nat.find_min htaken hj
        ⟨Nat.lt_trans hj hi, g', hg', Bool.eq_true_of_not_eq_false hnot⟩
    have hgets := getsTo_down now hg (Nat.lt_trans hi hattached) hbefore
    have hstop := result_down_of_takesPress (cases_of_lt_resizingIndex hnames hi hg) htakes
      (t := p.turn m (Nat.find htaken) now) rfl
    rw [hgets.getElem?_dispatch_of_stop (by rw [hstop]; simp) hi, hf]
  · left
    apply getsTo_down now hf hattached
    intro i g hi hg
    by_contra hnot
    exact htaken ⟨i, hi, g, hg, Bool.eq_true_of_not_eq_false hnot⟩

/-- An input that the features in front hand on, and that the one that resizes columns stops. -/
theorem isFor_resizing {input : Input α} {next : BuiltIn α → BuiltIn α}
    {r : Reply Flow (BuiltIn α) (Model α σ)} (h : p.GetsTo m now input next resizingIndex r)
    (hstop : r.result = .ok .stop) (hrequest : r.turn.request = .none) :
  p.IsFor m now input next resizingIndex r
  := by
  constructor
  case toGetsTo => apply h
  case behind =>
    intro i f hresult
    rw [hstop] at hresult
    cases hresult
  case request => apply hrequest

/-- The feature that resizes columns takes hold of an edge only if the pointer is on it, and
remembers where it was. -/
theorem handle_down_columnResizing {overDivider : Bool} {t : GridTurn α σ}
    (h : (ColumnResizing.handle ⟨none, overDivider⟩ (.pointer .down e) t).state.drag = some d) :
  ColumnResizing.handle ⟨none, overDivider⟩ (.pointer .down e) t = .stop ⟨some d, overDivider⟩ t
    ∧ e.button = .primary ∧ ColumnResizing.divider? t.model e = some d.column
    ∧ d.startX = e.point.x
    ∧ ∃ c, t.model.columns.column? d.column = some c ∧ d.startWidth = c.width
  := by
  simp only [ColumnResizing.handle] at h ⊢
  split at h
  case isFalse => cases h
  case isTrue hbutton =>
    split at h
    case h_2 => cases h
    case h_1 column id hcolumn hid =>
      obtain rfl := Option.some.inj h
      rw [hid, Option.bind_some] at hcolumn
      rw [if_pos hbutton, hid]
      exact ⟨rfl, hbutton, rfl, rfl, column, hcolumn, rfl⟩

/-- A press that takes hold of an edge changes nothing else. -/
theorem resizesColumn_dispatch_down (hnames : p.features.map BuiltIn.name = defaultFeatures)
    (hattached : resizingIndex < p.attachedCount)
    (hrest : ∀ f ∈ p.features, f.isDragging = false) (m : Model α σ) (now : Float)
    (hgrab : (p.dispatch m now (Input.pointer .down e)).pipeline.resizeDrag? = some d) :
  ((p.dispatch m now (Input.pointer .down e)).pipeline.ResizesColumn d
      ∧ (p.dispatch m now (Input.pointer .down e)).model = m)
    ∧ e.button = .primary ∧ ColumnResizing.divider? m e = some d.column ∧ d.startX = e.point.x
    ∧ ∃ c, m.columns.column? d.column = some c ∧ d.startWidth = c.width
  := by
  have hnames' := (Grid.keeps_names (σ := σ)).turns.dispatch (m := m) hnames now
    (Input.pointer .down e)
  obtain ⟨overDivider', hown'⟩ := own_of_resizeDrag? hnames' hgrab
  obtain ⟨⟨drag, overDivider⟩, hown⟩ := exists_columnResizing hnames
  obtain rfl : drag = none :=
    Option.isNone_iff_eq_none.mp
      (Option.isSome_eq_false_iff.mp (hrest _ (List.mem_of_getElem? hown)))
  obtain hgets | hsame := getsTo_resizing_or_eq hnames hattached hown m now e
  · have hreply := Option.some.inj (hgets.own_dispatch.symm.trans hown')
    have hstate : (ColumnResizing.handle ⟨none, overDivider⟩ (.pointer .down e)
        (p.turn m resizingIndex now)).state.drag = some d := by
      rw [BuiltIn.columnResizing.inj hreply]
    obtain ⟨hstep, hpress⟩ := handle_down_columnResizing hstate
    have heq : (BuiltIn.columnResizing ⟨none, overDivider⟩).handle (.pointer .down e)
        (p.turn m resizingIndex now)
        = ⟨.ok .stop, .columnResizing ⟨some d, overDivider⟩, p.turn m resizingIndex now⟩ := by
      rw [BuiltIn.handle, hstep]
      rfl
    rw [heq] at hgets
    refine ⟨?_, hpress⟩
    apply dragsAlone_of_isFor hnames _ (isFor_resizing hgets rfl rfl) ⟨overDivider, rfl⟩
    · intro f hf
      cases f <;> exact hf
    · intro i f _ hf
      apply hrest f (List.mem_of_getElem? hf)
  · rw [hsame] at hown'
    cases hown'

namespace ResizesColumn

/-- An input that features at rest hand on unless they select columns. -/
theorem getsTo (h : p.ResizesColumn d) (m : Model α σ) (now : Float) {input : Input α}
    (next : BuiltIn α → BuiltIn α)
    (hbefore : ∀ {f : BuiltIn α}, f.isDragging = false → f.isExtending = false →
      HandsOn input m f (next f)) {f : BuiltIn α} (hf : p.features[resizingIndex]? = some f) :
  p.GetsTo m now input next resizingIndex (f.handle input (p.turn m resizingIndex now))
  := by
  refine ⟨⟨f, hf, rfl⟩, h.attached, ?_⟩
  intro i g hi hg
  apply hbefore (h.rest (Nat.ne_of_lt hi) hg)
  obtain rfl | ⟨s, rfl⟩ | ⟨s, rfl⟩ := cases_of_lt_resizingIndex h.names hi hg
  · rfl
  · rfl
  · rfl

/-- A drag gives the column the width for its place. -/
theorem dispatch_drag (h : p.ResizesColumn d) (m : Model α σ) (e : PointerEvent α)
    (now : Float) :
  (p.dispatch m now (Input.pointer .drag e)).pipeline.ResizesColumn d
    ∧ (p.dispatch m now (Input.pointer .drag e)).model
      = m.setColumnWidth d.column (d.startWidth + (e.point.x - d.startX))
  := by
  obtain ⟨_, hown, overDivider, rfl⟩ := h.own
  have hgets := h.getsTo m now id
    (fun hdragging hextending => BuiltIn.handsOn_drag (e := e) hdragging hextending) hown
  apply dragsAlone_of_isFor h.names h.rest (isFor_resizing hgets rfl rfl) ⟨overDivider, rfl⟩
  intro f hf
  exact hf

/-- A release notes how the width has changed. -/
theorem dispatch_up (h : p.ResizesColumn d) {m : Model α σ} {c : Column α}
    (hc : m.columns.column? d.column = some c) (e : PointerEvent α) (now : Float) :
  (p.dispatch m now (Input.pointer .up e)).model
    = ColumnResizing.noteResize m d.column d.startWidth c.width
  := by
  obtain ⟨_, hown, overDivider, rfl⟩ := h.own
  have hgets := h.getsTo m now BuiltIn.afterRelease
    (fun hdragging _ => BuiltIn.handsOn_up (e := e) hdragging) hown
  rw [(isFor_resizing hgets rfl rfl).dispatch.model_eq]
  simp only [BuiltIn.handle, BuiltIn.reply, ColumnResizing.handle, Step.stop, Turn.modify, turn, hc]

/-- No timer is for the feature that resizes columns. -/
theorem tick (h : p.ResizesColumn d) (m : Model α σ) (now : Float) :
  (p.tick (Input α) m now).pipeline.ResizesColumn d
    ∧ (p.tick (Input α) m now).model = m
  := by
  apply DragsAlone.tick h
  rintro f ⟨overDivider, rfl⟩ token t
  rfl

end ResizesColumn

end Pipeline

/-! ### The grid -/

/-- Where a drag is. -/
def Call.dragX? : Call α σ → Option α
  | .pointer .drag point _ _ => some point.x
  | _ => none

/-- Where the last one of some drags is. -/
def Call.lastDragX? (calls : List (Call α σ)) : Option α := (calls.filterMap dragX?).getLast?

namespace Grid

variable [Pixel α] [DataSource σ] {g start : Grid α σ (BuiltIn α)} {d : ResizeDrag α} {w : α}
  {c : Column α}

/-- If nothing is noted in an event, nothing new is told after it. -/
theorem flush_notifier_settle {a : Answer Unit α σ (BuiltIn α)}
    (hnotifier : a.grid.notifier = g.notifier)
    (hnotices : a.grid.model.takeNotices.1 = g.model.takeNotices.1) :
  (settle a).grid.flush.notifier = g.flush.notifier
  := by
  obtain ⟨cell, relaid, h⟩ := settle_eq_flush a
  rw [h]
  change (a.grid.notifier.tell a.grid.model.takeNotices.1).tell [] = _
  rw [Notifier.tell_nil, hnotifier, hnotices]
  rfl

/-- A column is being resized on a grid since a press on `start`.  It has the width `w`, all else is
as before the press, and there is nothing new to tell. -/
structure Resizing (d : ResizeDrag α) (w : α) (start g : Grid α σ (BuiltIn α)) : Prop where
  resizes : g.pipeline.ResizesColumn d
  resized : start.model.ResizedTo d.column w g.model
  told : g.flush.notifier = start.flush.notifier

/-- A press that takes hold of the edge of a column remembers its width and where the pointer is. -/
theorem resizing_perform_down (hg : g.IsStandard)
    (hrest : ∀ f ∈ g.pipeline.features, f.isDragging = false) {point : Point α} {button : Button}
    {modifiers : Modifiers}
    (hgrab : (g.perform (.pointer .down point button modifiers)).grid.pipeline.resizeDrag?
      = some d) :
  button = .primary
    ∧ ColumnResizing.divider? g.model (g.pointerEvent point button modifiers) = some d.column
    ∧ d.startX = point.x
    ∧ ∃ c, g.model.columns.column? d.column = some c ∧ d.startWidth = c.width
      ∧ Resizing d c.width g (g.perform (.pointer .down point button modifiers)).grid
  := by
  have hattached : resizingIndex < g.pipeline.attachedCount := hg.lt_attachedCount (by decide)
  obtain ⟨hpipeline, hmodel⟩ := g.perform_pointer_eq .down point button modifiers
  rw [hpipeline] at hgrab
  obtain ⟨⟨hresizes, hsame⟩, hbutton, hdivider, hx, c, hc, hw⟩ :=
    Pipeline.resizesColumn_dispatch_down hg.names hattached hrest g.model g.now hgrab
  rw [hsame] at hmodel
  refine ⟨hbutton, hdivider, hx, c, hc, hw, ?_, ?_, ?_⟩
  · rw [hpipeline]
    apply hresizes
  · apply (Model.ResizedTo.refl hc).of_still_eq hmodel
  · exact flush_notifier_settle (g := g) rfl (congrArg (fun m => m.takeNotices.1) hsame)

/-- A drag gives the column the width for its place, and ticks change nothing. -/
theorem Resizing.perform (h : Resizing d w start g)
    (hc : start.model.columns.column? d.column = some c) {call : Call α σ}
    (hcall : call.isBetween = true) :
  Resizing d (call.dragX?.elim w fun x => c.bound (d.startWidth + (x - d.startX))) start
    (g.perform call).grid
  := by
  cases call with
  | setClock now => exact ⟨h.resizes, h.resized, h.told⟩
  | tick now =>
    obtain ⟨hpipeline, hmodel⟩ := g.perform_tick_eq now
    obtain ⟨hticked, hsame⟩ := h.resizes.tick g.model now
    rw [hsame] at hmodel
    refine ⟨hpipeline ▸ hticked, h.resized.of_still_eq hmodel, ?_⟩
    have hnotices := congrArg (fun m => m.takeNotices.1) hsame
    exact (flush_notifier_settle (g := g) rfl hnotices).trans h.told
  | pointer kind point button modifiers =>
    cases kind with
    | drag =>
      obtain ⟨hpipeline, hmodel⟩ := g.perform_pointer_eq .drag point button modifiers
      obtain ⟨hdragged, hdrag⟩ := h.resizes.dispatch_drag g.model
        (g.pointerEvent point button modifiers) g.now
      rw [hdrag] at hmodel
      refine ⟨hpipeline ▸ hdragged, (h.resized.setColumnWidth hc _).of_still_eq hmodel, ?_⟩
      have hnotices := congrArg (fun m => m.takeNotices.1) hdrag
      have hquiet := hnotices.trans (Model.takeNotices_setColumnWidth g.model _ _)
      exact (flush_notifier_settle (g := g) rfl hquiet).trans h.told
    | _ => cases hcall
  | _ => cases hcall

/-- Of all drags the last one counts. -/
theorem Resizing.run (h : Resizing d w start g)
    (hc : start.model.columns.column? d.column = some c) {moves : List (Call α σ)}
    (hmoves : ∀ call ∈ moves, call.isBetween = true) :
  Resizing d ((Call.lastDragX? moves).elim w fun x => c.bound (d.startWidth + (x - d.startX)))
    start (g.run moves)
  := by
  induction moves generalizing g w with
  | nil => exact h
  | cons call rest ih =>
    have hrest := ih (h.perform hc (hmoves call List.mem_cons_self))
      fun call' hcall' => hmoves call' (List.mem_cons_of_mem _ hcall')
    change Resizing d _ start (((g.perform call).grid).run rest)
    rw [Call.lastDragX?, List.filterMap_cons]
    rw [Call.lastDragX?] at hrest
    cases hx : call.dragX? with
    | none =>
      rw [hx] at hrest
      exact hrest
    | some x =>
      rw [hx] at hrest
      dsimp only
      rw [List.getLast?_cons]
      cases hlast : (rest.filterMap Call.dragX?).getLast? with
      | none =>
        rw [hlast] at hrest
        exact hrest
      | some x' =>
        rw [hlast] at hrest
        exact hrest

/-- A release leaves the width as it is and tells how it has changed. -/
theorem Resizing.perform_up (h : Resizing d w start g)
    (hc : start.model.columns.column? d.column = some c) (point : Point α) (button : Button)
    (modifiers : Modifiers) :
  let released := (g.perform (.pointer .up point button modifiers)).grid
  start.model.ResizedTo d.column w released.model
    ∧ released.notifier = start.flush.notifier.tell
      (if ColumnResizing.roundedDiffers w d.startWidth then
        [.columnResized d.column d.startWidth w]
      else [])
  := by
  intro released
  have hup := h.resizes.dispatch_up (h.resized.column?_self hc)
    (g.pointerEvent point button modifiers) g.now
  obtain ⟨-, hmodel⟩ := g.perform_pointer_eq .up point button modifiers
  have hnotifier : released.notifier = g.notifier.tell (g.pipeline.dispatch g.model g.now
      (Input.pointer .up (g.pointerEvent point button modifiers))).model.takeNotices.1 := by
    obtain ⟨cell, relaid, hsettle⟩ := settle_eq_flush
      (g.offer (.pointer .up (g.pointerEvent point button modifiers)))
    exact congrArg (fun g => g.notifier) hsettle
  rw [hup, ColumnResizing.noteResize] at hmodel hnotifier
  refine ⟨?_, ?_⟩
  · apply h.resized.of_still_eq
    rw [hmodel]
    split <;> rfl
  · rw [hnotifier, ← h.told]
    change _ = (g.notifier.tell g.model.takeNotices.1).tell _
    split
    · rw [← Notifier.tell_append]
      change g.notifier.tell (g.model.columns.notices ++ (g.model.notices ++ [_])) = _
      rw [← List.append_assoc]
      rfl
    · rw [Notifier.tell_nil]

/-- When a press takes hold of the edge of a column, then whatever drags and ticks follow, the
release leaves the column with the width for the place of the last drag, within its limits, or with
the one it had if there was no drag, and leaves all else as before the press.  After what waited
before the press, listeners hear of the width if it is another one after rounding, and of nothing
else. -/
theorem resizes_of_press (hg : g.IsStandard)
    (hrest : ∀ f ∈ g.pipeline.features, f.isDragging = false) {point : Point α} {button : Button}
    {modifiers : Modifiers}
    (hgrab : (g.perform (.pointer .down point button modifiers)).grid.pipeline.resizeDrag?
      = some d)
    {moves : List (Call α σ)} (hmoves : ∀ call ∈ moves, call.isBetween = true)
    (point' : Point α) (button' : Button) (modifiers' : Modifiers) :
  let pressed := (g.perform (.pointer .down point button modifiers)).grid
  let released := ((pressed.run moves).perform (.pointer .up point' button' modifiers')).grid
  ColumnResizing.divider? g.model (g.pointerEvent point button modifiers) = some d.column
    ∧ ∃ c, g.model.columns.column? d.column = some c
      ∧ let w := (Call.lastDragX? moves).elim c.width fun x => c.bound (c.width + (x - point.x))
        g.model.ResizedTo d.column w released.model
          ∧ released.notifier = g.flush.notifier.tell
            (if ColumnResizing.roundedDiffers w c.width then [.columnResized d.column c.width w]
            else [])
          ∧ ∀ [RoundsToWhole α], ColumnResizing.roundedDiffers w c.width = true
            ↔ Pixel.round w < Pixel.round c.width ∨ Pixel.round c.width < Pixel.round w
  := by
  intro pressed released
  obtain ⟨-, hdivider, hx, c, hc, hw, hresizing⟩ := resizing_perform_down hg hrest hgrab
  refine ⟨hdivider, c, hc, ?_⟩
  intro w
  have hrun := hresizing.run hc hmoves
  rw [hx, hw] at hrun
  obtain ⟨hresized, htold⟩ := hrun.perform_up hc point' button' modifiers'
  rw [hw] at htold
  refine ⟨hresized, htold, ?_⟩
  intro _
  apply ColumnResizing.roundedDiffers_iff

/-- The grid is scrolled as far as it goes, and the edge of the first column that is not scrolled out
is dragged to the left.  At its least width there is room for one column more, which stands in front
of it from then on.  Forty pixels to the right of where the edge was it is forty pixels wider. -/
theorem resizes_of_press_table :
  let g : Grid Rat Table (BuiltIn Rat) :=
    ((ofPipeline (Table.generate 6 6 fun x y => .text (toString (x + y)))
      (ColumnSchema.ofNames ["a", "b", "c", "d", "e", "f"]) Config.default
      (.ofFeatures BuiltIn.all)).subscribe.2).run [.resizeViewport 290 200, .scrollTo 4 0]
  let pressed := (g.perform (.pointer .down ⟨138, 5⟩ .primary .none)).grid
  let moves : List (Call Rat Table) := [.pointer .drag ⟨-60, 300⟩ .primary .none, .tick 1,
    .pointer .drag ⟨178, 5⟩ .primary .none, .tick 2]
  let released := ((pressed.run moves).perform (.pointer .up ⟨178, 5⟩ .primary .none)).grid
  g.IsStandard
    ∧ (∀ f ∈ g.pipeline.features, f.isDragging = false)
    ∧ pressed.pipeline.resizeDrag? = some ⟨.data 4, 100, 138⟩
    ∧ (∀ call ∈ moves, call.isBetween = true)
    ∧ g.model.layout.columns.map (fun column => (column.slot, column.left))
      = [(.rowHandle, 0), (.shown 4, 40), (.shown 5, 140)]
    ∧ released.model.layout.columns.map (fun column => (column.slot, column.left))
      = [(.rowHandle, 0), (.shown 3, 40), (.shown 4, 140), (.shown 5, 280)]
    ∧ g.model.ResizedTo (.data 4) 140 released.model
    ∧ g.flush.notifier.deliveries = []
    ∧ released.notifier = g.flush.notifier.tell [.columnResized (.data 4) 100 140]
  := by
  intro g pressed moves released
  have hg : g.IsStandard :=
    .perform _ (.perform _ (.listen _ (.new _ _ _ Pipeline.ofNames_defaultFeatures)))
  have hrest : ∀ f ∈ g.pipeline.features, f.isDragging = false := by
    have hall : (g.pipeline.features.all fun f => !f.isDragging) = true := by
      simp only [g]
      cbv
    intro f hf
    simpa using List.all_eq_true.mp hall f hf
  have hgrab : pressed.pipeline.resizeDrag? = some ⟨.data 4, 100, 138⟩ := by
    simp only [g, pressed]
    cbv
  have hmoves : ∀ call ∈ moves, call.isBetween = true := by decide
  have hbefore : g.model.layout.columns.map (fun column => (column.slot, column.left))
      = [(.rowHandle, 0), (.shown 4, 40), (.shown 5, 140)] := by
    simp only [g]
    cbv
  have hafter : released.model.layout.columns.map (fun column => (column.slot, column.left))
      = [(.rowHandle, 0), (.shown 3, 40), (.shown 4, 140), (.shown 5, 280)] := by
    simp only [g, pressed, moves, released]
    cbv
  have hcolumn : (g.model.columns.column? (.data 4)).map (fun c => (c.width, c.bound 140))
      = some (100, 140) := by
    simp only [g]
    cbv
  have hquiet : g.flush.notifier.deliveries = [] := by
    simp only [g]
    cbv
  obtain ⟨-, c, hc, hresized, htold, -⟩ :=
    resizes_of_press hg hrest hgrab hmoves ⟨178, 5⟩ .primary .none
  rw [hc] at hcolumn
  obtain ⟨hwidth, hbound⟩ := Prod.mk.inj (Option.some.inj hcolumn)
  have hw : (Call.lastDragX? moves).elim c.width (fun x => c.bound (c.width + (x - 138)))
      = 140 := by
    have hsum : (100 : Rat) + (178 - 138) = 140 := by norm_num
    rw [hwidth]
    change c.bound ((100 : Rat) + (178 - 138)) = 140
    rw [hsum, hbound]
  have hdiffers : ColumnResizing.roundedDiffers (140 : Rat) 100 = true := by cbv
  rw [hw] at hresized htold
  rw [hwidth, if_pos hdiffers] at htold
  exact ⟨hg, hrest, hgrab, hmoves, hbefore, hafter, hresized, hquiet, htold⟩

end Grid

end DataGrid
