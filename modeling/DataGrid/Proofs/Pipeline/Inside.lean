import DataGrid.Proofs.Feature.Inside
import DataGrid.Proofs.Feature.Names
import DataGrid.Proofs.Feature.Requests

/-!
# Pipelines and the size of the table

As long as no feature reaches from outside the table, no input on a cell of the table and no timer
leads to a selection that is not in the table (`Pipeline.SelectsInside`).
-/

namespace DataGrid

variable {α σ : Type} {rows columns : Nat}

/-- The features that select rows reach from one of the table. -/
def Pipeline.AnchorsRows (rows : Nat) (p : Pipeline (BuiltIn α)) : Prop :=
  ∀ s : RowSelection, .rowSelection s ∈ p.features → s.AnchorIsInside rows

namespace Pipeline

variable {p : Pipeline (BuiltIn α)} {index : Nat}

section After

variable {β : Type} {f : BuiltIn α} {r : Reply β (BuiltIn α) (Model α σ)}

/-- A feature that selects rows after a turn is the one that has had it, or it was there before. -/
theorem AnchorsRows.after (h : p.AnchorsRows rows) (now : Float)
    (hr : ∀ s, r.feature = .rowSelection s → s.AnchorIsInside rows) :
  (p.after index now r).AnchorsRows rows
  := by
  intro s hs
  rw [features_after] at hs
  obtain hs | hs := List.mem_or_eq_of_mem_set hs
  · apply h s hs
  · apply hr s hs.symm

/-- Only one feature selects rows. -/
theorem anchorsRows_after (hnames : p.features.map BuiltIn.name = defaultFeatures)
    {s s' : RowSelection} (hf : p.features[index]? = some (.rowSelection s)) (now : Float)
    (hr : r.feature = .rowSelection s') (hs' : s'.AnchorIsInside rows) :
  (p.after index now r).AnchorsRows rows
  := by
  intro s'' hs''
  obtain ⟨j, hj⟩ := List.mem_iff_getElem?.mp hs''
  rw [features_after] at hj
  obtain ⟨-, heq⟩ | ⟨hne, hj⟩ := getElem?_set_cases hj
  · rw [hr] at heq
    obtain rfl := BuiltIn.rowSelection.inj heq
    apply hs'
  · cases hne (index_eq_of_name_eq hnames hj hf rfl)

end After

variable [Pixel α] [DataSource σ]

/-- The selection is inside a table of so many rows and shown columns, no feature reaches from
outside, and rows are selected only where they are reached from inside. -/
structure SelectsInside (rows columns : Nat) (p : Pipeline (BuiltIn α)) (m : Model α σ) :
    Prop where
  names : p.features.map BuiltIn.name = defaultFeatures
  reaches : ∀ f ∈ p.features, f.ReachesInside rows columns
  spans : m.Spans rows columns
  selection : m.selection.Fits rows columns (p.AnchorsRows rows)

namespace SelectsInside

variable {m : Model α σ} {f : BuiltIn α} {now : Float}

/-- What a turn has to keep. -/
theorem after {β : Type} {r : Reply β (BuiltIn α) (Model α σ)} (h : p.SelectsInside rows columns m)
    (hf : p.features[index]? = some f) (hname : r.feature.name = f.name)
    (hreaches : r.feature.ReachesInside rows columns) (hacts : m.Acts (fun _ => True) r.turn.model)
    (hselection :
      r.turn.model.selection.Fits rows columns ((p.after index now r).AnchorsRows rows)) :
  (p.after index now r).SelectsInside rows columns r.turn.model
  := by
  constructor
  case names => apply (names_after hf hname).trans h.names
  case reaches =>
    intro g hg
    rw [features_after] at hg
    obtain hg | rfl := List.mem_or_eq_of_mem_set hg
    · apply h.reaches g hg
    · apply hreaches
  case spans => apply h.spans.acts hacts
  case selection => apply hselection

theorem handle (h : p.SelectsInside rows columns m) {input : Input α}
    (hinput : input.IsInside rows columns) (hf : p.features[index]? = some f) :
  let r := f.handle input (p.turn m index now)
  (p.after index now r).SelectsInside rows columns r.turn.model
  := by
  intro r
  have hname : r.feature.name = f.name := f.name_handle input _
  have hacts : m.Acts (fun _ => True) r.turn.model :=
    (f.acts_handle input (p.turn m index now)).mono fun _ _ => trivial
  have hf' := h.reaches f (List.mem_of_getElem? hf)
  by_cases hrow : f.name = "row_selection"
  case pos =>
    cases f with
    | rowSelection s =>
      have hs : m.selection.Fits rows columns (s.AnchorIsInside rows) := by
        apply h.selection.mono
        intro hanchors
        apply hanchors s (List.mem_of_getElem? hf)
      obtain ⟨hreaches, hselection⟩ :=
        RowSelection.inside_handle (t := p.turn m index now) hinput hf' hs
      apply h.after hf hname hreaches hacts
      apply hselection.mono
      intro hanchor
      apply anchorsRows_after h.names hf now rfl hanchor
    | _ => simp [BuiltIn.name] at hrow
  case neg =>
    obtain ⟨hreaches, hselection⟩ := BuiltIn.inside_handle (t := p.turn m index now) hrow h.spans
      hinput hf' h.selection
    apply h.after hf hname hreaches hacts
    apply hselection.mono
    intro hanchors
    apply hanchors.after
    intro s hs
    rw [hs] at hname
    cases hrow hname.symm

theorem fire (h : p.SelectsInside rows columns m) (hf : p.features[index]? = some f)
    (timer : TimerToken) :
  let r := f.fire timer (p.turn m index now)
  (p.after index now r).SelectsInside rows columns r.turn.model
  := by
  intro r
  have hname : r.feature.name = f.name := f.name_fire timer _
  have hacts : m.Acts (fun _ => True) r.turn.model :=
    (f.roams_fire timer (p.turn m index now)).mono fun _ _ => trivial
  obtain ⟨hreaches, hselection⟩ := BuiltIn.inside_fire (t := p.turn m index now) h.spans
    (h.reaches f (List.mem_of_getElem? hf)) h.selection timer
  apply h.after hf hname hreaches hacts
  apply hselection.mono
  intro hanchors
  apply hanchors.after
  intro s hs
  rw [hs] at hname
  -- a timer is nothing to a feature that selects rows
  cases f with
  | rowSelection s' =>
    obtain rfl := BuiltIn.rowSelection.inj hs
    apply hanchors s' (List.mem_of_getElem? hf)
  | _ => simp [BuiltIn.name] at hname

/-- An input on a cell of the table keeps the selection there. -/
theorem dispatch (h : p.SelectsInside rows columns m) {input : Input α}
    (hinput : input.IsInside rows columns) :
  (p.dispatch m now input).pipeline.SelectsInside rows columns (p.dispatch m now input).model
  := by
  apply dispatch_keeps (M := SelectsInside rows columns) _ h
  intro index p m f h hf _
  apply h.handle hinput hf

/-- So do all timers. -/
theorem tick (h : p.SelectsInside rows columns m) :
  (p.tick (Input α) m now).pipeline.SelectsInside rows columns (p.tick (Input α) m now).model
  := by
  apply tick_keeps (M := SelectsInside rows columns) _ _ _ h
  · intro index p m f token h hf
    apply h.fire hf token
  · intro p m h
    exact ⟨h.names, h.reaches, h.spans, h.selection⟩
  · intro p m h
    exact ⟨h.names, h.reaches, h.spans, h.selection⟩

end SelectsInside

end Pipeline

end DataGrid
