import DataGrid.Proofs.Columns.Change

/-!
# Repeated columns

No change shows a column twice unless repetitions are asked for, with one exception: a request
that names a column several times shows it several times, whether repetitions are allowed or not.
`Change.NamesOnce` excludes such requests, and nothing else is needed.
-/

namespace DataGrid

namespace Columns

variable {α : Type}

/-- The length of the list that the indexes of a request count in. -/
def sourceLength (c : Columns α) : Source → Nat
  | .shown => c.shown.length
  | .all => c.data.size

namespace Change

/-- Whether repetitions are asked for. -/
def allowsRepeats : Change α → Bool
  | .showColumns _ _ _ duplicates => duplicates
  | _ => false

/-- The change shows no column under two of its indexes. -/
def NamesOnce (c : Columns α) : Change α → Prop
  | .showColumns source indexes placement _ =>
    placement = .removeOnly ∨ (indexes.filter (· < c.sourceLength source)).Nodup
  | _ => True

end Change

variable {c : Columns α}

/-- If no two items have the same image, the images repeat as the items that have one do. -/
theorem nodup_filterMap_iff {β γ : Type} {f : β → Option γ} {p : β → Bool}
    (hp : ∀ a, p a ↔ ∃ x, f a = some x)
    (hf : ∀ a b x, f a = some x → f b = some x → a = b) :
  ∀ items : List β, (items.filterMap f).Nodup ↔ (items.filter p).Nodup
  | [] => by
    simp
  | a :: rest => by
    have ih := nodup_filterMap_iff hp hf rest
    cases ha : f a with
    | none =>
      have hpa : ¬ p a := by
        intro hpa
        obtain ⟨x, hx⟩ := (hp a).mp hpa
        rw [ha] at hx
        cases hx
      rw [List.filterMap_cons_none ha, List.filter_cons_of_neg hpa, ih]
    | some x =>
      have hpa : p a := (hp a).mpr ⟨x, ha⟩
      have same : x ∈ rest.filterMap f ↔ a ∈ rest.filter p := by
        rw [List.mem_filterMap, List.mem_filter]
        constructor
        · rintro ⟨b, hb, hx⟩
          rw [hf a b x ha hx]
          apply And.intro hb ((hp b).mpr ⟨x, hx⟩)
        · rintro ⟨hmem, -⟩
          apply Exists.intro a ⟨hmem, ha⟩
      rw [List.filterMap_cons_some ha, List.filter_cons_of_pos hpa, List.nodup_cons,
        List.nodup_cons, ih, same]

theorem IsWellFormed.eq_of_getElem?_id (h : c.IsWellFormed) {i j : Nat} {id : ColumnId}
    (hi : c.data[i]?.map (·.id) = some id) (hj : c.data[j]?.map (·.id) = some id) :
  i = j
  := by
  obtain ⟨d, hd, rfl⟩ := Option.map_eq_some_iff.mp hi
  obtain ⟨e, he, hid⟩ := Option.map_eq_some_iff.mp hj
  rw [h.id_eq i d hd, h.id_eq j e he] at hid
  cases hid
  rfl

/-- A request picks a column twice if it names one index twice. -/
theorem IsWellFormed.nodup_pick_iff (h : c.IsWellFormed) (hshown : c.shown.Nodup)
    (source : Source) (indexes : List Nat) :
  (c.pick source indexes).Nodup ↔ (indexes.filter (· < c.sourceLength source)).Nodup
  := by
  cases source with
  | shown =>
    apply nodup_filterMap_iff
    · intro i
      rw [decide_eq_true_iff]
      simp [sourceLength, List.getElem?_eq_some_iff]
    · intro i j id hi hj
      obtain ⟨hlt, -⟩ := List.getElem?_eq_some_iff.mp hi
      apply (List.getElem?_inj hlt hshown).mp (hi.trans hj.symm)
  | all =>
    apply nodup_filterMap_iff
    · intro i
      rw [decide_eq_true_iff]
      simp [sourceLength, Array.getElem?_eq_some_iff]
    · intro i j id hi hj
      apply h.eq_of_getElem?_id hi hj

/-! ### What a change repeats -/

section Changes

variable [Pixel α]

theorem nodup_shown_reset (c : Columns α) (schema : List ColumnSchema) (config : Config α) :
  (c.reset schema config).shown.Nodup
  := by
  rw [shown_reset]
  apply List.nodup_range.map
  intro i j hij
  cases hij
  rfl

/-- If no column is shown twice, a change that does not ask for it shows one twice exactly if it
names one twice. -/
theorem IsWellFormed.nodup_shown_apply_iff (h : c.IsWellFormed) (hshown : c.shown.Nodup)
    {change : Change α} (hchange : change.allowsRepeats = false) :
  (c.apply change).shown.Nodup ↔ change.NamesOnce c
  := by
  cases change with
  | showColumns source indexes placement duplicates =>
    cases hchange
    change (c.showColumns source indexes placement false).shown.Nodup ↔ _ ∨ _
    rw [Columns.showColumns, shown_setShown, nodup_arrange_iff hshown,
      h.nodup_pick_iff hshown]
  | hideColumns source indexes =>
    apply iff_of_true _ trivial
    change (c.setShown _).shown.Nodup
    rw [shown_setShown, nodup_arrange_iff hshown]
    apply Or.inl rfl
  | move start count target =>
    apply iff_of_true _ trivial
    change ((c.move? start count target).getD c).shown.Nodup
    cases hmove : c.move? start count target with
    | none => apply hshown
    | some c' => apply (hasMoved_of_move? hmove).runMoved.perm.nodup_iff.mpr hshown
  | swap a b =>
    apply iff_of_true _ trivial
    change ((c.swap? a b).getD c).shown.Nodup
    cases hswap : c.swap? a b with
    | none => apply hshown
    | some c' => apply (perm_shown_of_swap? hswap).2.nodup_iff.mpr hshown
  | setOrder order =>
    apply iff_of_true _ trivial
    change (c.setShown _).shown.Nodup
    rw [shown_setShown]
    apply (c.isGathered_ordered order).nodup
  | setWidth id width =>
    apply iff_of_true _ trivial
    change (c.modify id _).shown.Nodup
    rw [shown_modify]
    apply hshown
  | setProperties id p =>
    apply iff_of_true _ trivial
    change ((c.modifyProperties id _).toOption.getD c).shown.Nodup
    rw [shown_modifyProperties]
    apply hshown
  | addProperties id p =>
    apply iff_of_true _ trivial
    change ((c.modifyProperties id _).toOption.getD c).shown.Nodup
    rw [shown_modifyProperties]
    apply hshown
  | restore s =>
    apply iff_of_true _ trivial
    change (Columns.setShown _ _).shown.Nodup
    rw [shown_setShown]
    apply (isGathered_ordered _ s.order).nodup
  | reset schema config =>
    apply iff_of_true _ trivial
    apply nodup_shown_reset

theorem applyAll_take_succ (c : Columns α) {changes : List (Change α)} {n : Nat}
    (h : n < changes.length) :
  c.applyAll (changes.take (n + 1)) = (c.applyAll (changes.take n)).apply changes[n]
  := by
  rw [applyAll, List.take_succ_eq_append_getElem h, List.foldl_append]
  rfl

/-- Along any changes of which none asks for repetitions, no column is ever shown twice exactly if
each change names every column at most once. -/
theorem nodup_shown_applyAll_iff (schema : List ColumnSchema) (config : Config α)
    {changes : List (Change α)} (h : ∀ change ∈ changes, change.allowsRepeats = false) :
  (∀ n : Nat, ((ofSchema schema config).applyAll (changes.take n)).shown.Nodup)
    ↔ ∀ (n : Nat) (hn : n < changes.length),
        changes[n].NamesOnce ((ofSchema schema config).applyAll (changes.take n))
  := by
  have wellFormed : ∀ n, ((ofSchema schema config).applyAll (changes.take n)).IsWellFormed := by
    intro n
    apply (isWellFormed_ofSchema schema config).applyAll
  have step : ∀ (n : Nat) (hn : n < changes.length),
      ((ofSchema schema config).applyAll (changes.take n)).shown.Nodup →
      (((ofSchema schema config).applyAll (changes.take (n + 1))).shown.Nodup
        ↔ changes[n].NamesOnce ((ofSchema schema config).applyAll (changes.take n))) := by
    intro n hn hnodup
    rw [applyAll_take_succ _ hn]
    apply (wellFormed n).nodup_shown_apply_iff hnodup (h _ (List.getElem_mem hn))
  constructor
  · intro hnodup n hn
    apply (step n hn (hnodup n)).mp (hnodup (n + 1))
  · intro hnames n
    induction n with
    | zero => apply nodup_shown_reset
    | succ n ih =>
      by_cases hn : n < changes.length
      · apply (step n hn ih).mpr (hnames n hn)
      · rw [List.take_of_length_le (by omega)] at ih ⊢
        apply ih

/-- Hiding a column and showing it again. -/
theorem nodup_shown_applyAll_iff_hidden :
  let c : Columns Rat := ofSchema (ColumnSchema.ofNames ["A", "B"]) Config.default
  let changes := [.hideColumns .all [1], .showColumns .all [1] (.before 0) false]
  (∀ change ∈ changes, change.allowsRepeats = false)
    ∧ ((∀ n : Nat, (c.applyAll (changes.take n)).shown.Nodup)
      ↔ ∀ (n : Nat) (hn : n < changes.length),
          changes[n].NamesOnce (c.applyAll (changes.take n)))
  := by
  intro c changes
  have h : ∀ change ∈ changes, change.allowsRepeats = false := by
    simp [changes, Change.allowsRepeats]
  exact ⟨h, nodup_shown_applyAll_iff _ _ h⟩

/-- A column that is named twice is shown twice, though no repetitions are allowed. -/
theorem shown_twice_of_named_twice :
  let c : Columns Rat := ofSchema (ColumnSchema.ofNames ["A"]) Config.default
  let change := .showColumns .all [0, 0] .atEnd false
  change.allowsRepeats = false
    ∧ c.shown.Nodup
    ∧ (c.apply change).shown = [.data 0, .data 0]
    ∧ ¬ (c.apply change).shown.Nodup
  := by
  intro c change
  have hschema : sortedSchema (ColumnSchema.ofNames ["A"]) = ColumnSchema.ofNames ["A"] := by
    simp [sortedSchema, ColumnSchema.ofNames, firstOfIndex]
  have hdata : c.data[0]?.map (·.id) = some (.data 0) := by
    change ((empty _).reset _ _).data[0]?.map _ = _
    rw [getElem?_data_reset, hschema]
    rfl
  have hsize : c.data.size = 1 := by
    change ((empty _).reset _ _).data.size = _
    rw [size_data_reset, hschema]
    rfl
  have hshown : c.shown = [.data 0] := by
    change ((empty _).reset _ _).shown = (List.range 1).map .data
    rw [shown_reset, ← hsize]
    rfl
  have htwice : (c.apply change).shown = [.data 0, .data 0] := by
    change (c.setShown (arrange c.shown (c.pick .all [0, 0]) .atEnd false)).shown = _
    rw [shown_setShown, hshown]
    simp [pick, hdata, arrange_atEnd, kept]
  refine ⟨rfl, ?_, htwice, ?_⟩
  · rw [hshown]
    apply List.nodup_singleton
  · rw [htwice]
    decide

end Changes

end Columns

end DataGrid
