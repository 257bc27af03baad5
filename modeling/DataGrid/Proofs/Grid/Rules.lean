import DataGrid.Grid.Call
import DataGrid.Proofs.Pipeline.Rules

/-!
# Rules for grids

What every turn of a feature keeps, and what is kept when the layout is announced and notices are
taken (`Grid.Keeps`), is kept by every event; if it is kept by the changes of the host too, it holds
after any run of calls (`Grid.Keeps.run`).
-/

namespace DataGrid

variable {α σ φ : Type} [Pixel α] [DataSource σ]

/-- The change of the model that a call is, if it is no more than that. -/
def Call.change? : Call α σ → Option (Model α σ → Model α σ)
  | .resizeViewport width height => some fun m => m.resizeViewport width height
  | .scrollTo left top => some fun m => m.scrollTo left top
  | .scrollBy columns rows => some fun m => m.scrollBy columns rows
  | .setFixedColumns count => some fun m => m.setFixedColumns count
  | .setFixedRows count => some fun m => m.setFixedRows count
  | .moveColumns start count target => some fun m => (m.moveColumns? start count target).getD m
  | .showColumns source indexes placement duplicates =>
    some fun m => m.showColumns source indexes placement duplicates
  | .hideColumns source indexes => some fun m => m.hideColumns source indexes
  | .restore snapshot => some fun m => m.restore snapshot
  | _ => none

namespace Grid

omit [Pixel α] in
/-- Writing through a cell stores a value somewhere in the table and does nothing else. -/
theorem eq_of_setValue? {g g' : Grid α σ φ} {x : Slot} {y : Nat} {value : CellValue}
    (h : g.setValue? x y value = some g') :
  ∃ column row, g' =
    { g with model := { g.model with data := DataSource.setValue g.model.data column row value } }
  := by
  obtain ⟨cursor, -, h⟩ := Option.bind_eq_some_iff.mp h
  obtain ⟨⟨cursor', data⟩, hset, h⟩ := Option.bind_eq_some_iff.mp h
  obtain ⟨b, -, hset⟩ := Option.bind_eq_some_iff.mp hset
  split at hset
  · next column _ _ =>
    obtain ⟨-, rfl⟩ := Option.some.inj hset
    exact ⟨column, b.valueCell.y, (Option.some.inj h).symm⟩
  · cases hset

variable [Feature φ (Model α σ) (Input α)]

theorem perform_of_change? {c : Call α σ} {f : Model α σ → Model α σ} (h : c.change? = some f)
    (g : Grid α σ φ) :
  g.perform c = g.change f
  := by
  cases c with
  | setClock | pointer | key | tick | load | setValue => cases h
  | _ =>
    obtain rfl := Option.some.inj h
    rfl

/-- `M` is kept by the turns of the features and by all else that follows every event. -/
structure Keeps (M : Pipeline φ → Model α σ → Prop) : Prop where
  turns : Pipeline.Keeps (Input α) M
  announce {p : Pipeline φ} {m : Model α σ} : M p m → M p { m with relaid := false }
  takeNotices {p : Pipeline φ} {m : Model α σ} : M p m → M p m.takeNotices.2

namespace Keeps

variable {M : Pipeline φ → Model α σ → Prop}

omit [Pixel α] [DataSource σ] in
theorem notifyRendered (hM : Keeps M) {g : Grid α σ φ} (h : M g.pipeline g.model) :
  M g.notifyRendered.grid.pipeline g.notifyRendered.grid.model
  := by
  rw [Grid.notifyRendered]
  split
  · apply hM.turns.dispatch (hM.announce h)
  · apply h

omit [Pixel α] [DataSource σ] in
theorem settle (hM : Keeps M) {a : Answer Unit α σ φ} (h : M a.grid.pipeline a.grid.model) :
  M (settle a).grid.pipeline (settle a).grid.model
  := hM.takeNotices (hM.notifyRendered h)

omit [Pixel α] [DataSource σ] in
theorem change (hM : Keeps M) {g : Grid α σ φ} {f : Model α σ → Model α σ}
    (h : M g.pipeline (f g.model)) :
  M (g.change f).grid.pipeline (g.change f).grid.model
  := hM.settle h

/-- What a call keeps, for what the changes of the host keep. -/
theorem perform (hM : Keeps M)
    (change : ∀ {c : Call α σ} {f : Model α σ → Model α σ} {p : Pipeline φ} {m : Model α σ},
      c.change? = some f → M p m → M p (f m))
    (load : ∀ (data : σ) (schema : List ColumnSchema) {p : Pipeline φ} {m : Model α σ},
      M p m → M p (m.load data schema))
    (setValue : ∀ (x y : Nat) (value : CellValue) {p : Pipeline φ} {m : Model α σ},
      M p m → M p { m with data := DataSource.setValue m.data x y value })
    {g : Grid α σ φ} (c : Call α σ) (h : M g.pipeline g.model) :
  M (g.perform c).grid.pipeline (g.perform c).grid.model
  := by
  cases hc : c.change? with
  | some f =>
    rw [perform_of_change? hc]
    apply hM.change (change hc h)
  | none =>
    cases c with
    | setClock now => apply h
    | pointer kind point button modifiers => apply hM.settle (hM.turns.dispatch h _ _)
    | key kind event => apply hM.settle (hM.turns.dispatch h _ _)
    | tick now => apply hM.settle (hM.turns.tick h now)
    | load data schema => apply hM.takeNotices (load data schema h)
    | setValue x y value =>
      cases hset : g.setValue? x y value with
      | none =>
        simp only [Grid.perform, hset]
        apply h
      | some g' =>
        simp only [Grid.perform, hset]
        obtain ⟨column, row, rfl⟩ := eq_of_setValue? hset
        apply setValue column row value h
    | _ => cases hc

/-- What every call keeps holds after any run. -/
theorem run {g : Grid α σ φ}
    (perform : ∀ {g : Grid α σ φ} (c : Call α σ), M g.pipeline g.model →
      M (g.perform c).grid.pipeline (g.perform c).grid.model)
    (h : M g.pipeline g.model) (calls : List (Call α σ)) :
  M (g.run calls).pipeline (g.run calls).model
  := by
  induction calls generalizing g with
  | nil => apply h
  | cons c rest ih => apply ih (perform c h)

end Keeps

/-- One call more. -/
theorem run_take_succ (g : Grid α σ φ) {calls : List (Call α σ)} {n : Nat} (h : n < calls.length) :
  g.run (calls.take (n + 1)) = ((g.run (calls.take n)).perform calls[n]).grid
  := by
  rw [run, List.take_succ_eq_append_getElem h, List.foldl_append]
  rfl

end Grid

end DataGrid
