import Mathlib
import DataGrid.Proofs.Columns.History

/-!
# One notice for a change

A change of the columns notes what it does to the shown list with one notice, and notes nothing if
the list stays as it is (`Columns.NotesOnce`).  One kind of change does not keep to this: exchanging
two slots that show the same column is noted and reported, though the list is the same afterwards
(`Change.IsVain`).  So along any changes the notices tell of changes exactly if none of them is such
an exchange (`Columns.notesOnce_throughout_iff`).
-/

namespace DataGrid

/-- The two lists of a notice of a change of the order are different ones. -/
def Notice.IsReal {α : Type} (n : Notice α) : Prop :=
  ∀ before after, n.orderChange? = some (before, after) → before ≠ after

namespace Columns

variable {α : Type} {c c' : Columns α}

/-! ### Exchanges -/

/-- An exchange leaves a list as it is exactly if the two items are equal. -/
theorem swapItems_eq_self_iff {β : Type} {xs : List β} {a b : Nat} (ha : a < xs.length)
    (hb : b < xs.length) :
  swapItems xs a b = xs ↔ xs[a] = xs[b]
  := by
  have hswapped : swapItems xs a b = (xs.set a xs[b]).set b xs[a] := by
    rw [swapItems, List.getElem?_eq_getElem ha, List.getElem?_eq_getElem hb]
  rw [hswapped]
  constructor
  · intro hsame
    have hb' : ((xs.set a xs[b]).set b xs[a])[b]? = xs[b]? := by rw [hsame]
    rw [List.getElem?_set_self (by simpa using hb), List.getElem?_eq_getElem hb] at hb'
    apply Option.some.inj hb'
  · intro heq
    rw [← heq, List.set_getElem_self, heq, List.set_getElem_self]

/-! ### What a change notes and reports -/

namespace Change

/-- The notice that is due when a change turns one list into another. -/
def notice (before after : List ColumnId) : Change α → Notice α
  | .move .. | .swap .. => .columnsReordered before after
  | _ => .shownColumnsChanged before after

/-- Whether a change says that it was made; only moves and exchanges report this. -/
def report? (c : Columns α) : Change α → Option Bool
  | .move start count target => some (c.move? start count target).isSome
  | .swap a b => some (c.swap? a b).isSome
  | _ => none

/-- An exchange of two slots that show the same column. -/
def IsVain (c : Columns α) : Change α → Prop
  | .swap a b => a ≠ b ∧ ∃ id, c.shown[a]? = some id ∧ c.shown[b]? = some id
  | _ => False

end Change

section Changes

variable [Pixel α]

/-- A change of the shown list is noted once, no other notice comes, and what the change reports is
whether the list has changed. -/
structure NotesOnce (c : Columns α) (change : Change α) : Prop where
  notices_eq : (c.apply change).notices
    = c.notices ++ if c.shown = (c.apply change).shown then []
      else [change.notice c.shown (c.apply change).shown]
  report_iff : ∀ made, change.report? c = some made →
    (made = true ↔ c.shown ≠ (c.apply change).shown)

variable {change : Change α}

/-- A change that leaves the list as it is and notes nothing. -/
theorem notesOnce_of_same (hshown : (c.apply change).shown = c.shown)
    (hnotices : (c.apply change).notices = c.notices)
    (hreport : ∀ made, change.report? c = some made → made = false) :
  c.NotesOnce change
  := by
  constructor
  case notices_eq => rw [if_pos hshown.symm, List.append_nil, hnotices]
  case report_iff =>
    intro made hmade
    rw [hreport made hmade]
    simp [hshown]

omit [Pixel α] in
theorem notices_noteShown (c : Columns α) (before : List ColumnId) :
  (c.noteShown before).notices
    = c.notices ++ if before = c.shown then [] else [.shownColumnsChanged before c.shown]
  := by
  rw [noteShown]
  split
  · rw [List.append_nil]
  · rfl

/-- A change that compares the new list with the old one. -/
theorem notesOnce_of_noteShown (happly : c.apply change = c'.noteShown c.shown)
    (hnotices : c'.notices = c.notices)
    (hnotice : ∀ before after, change.notice before after = .shownColumnsChanged before after)
    (hreport : change.report? c = none) :
  c.NotesOnce change
  := by
  constructor
  case notices_eq => rw [happly, notices_noteShown, shown_noteShown, hnotices, hnotice]
  case report_iff =>
    intro made hmade
    rw [hreport] at hmade
    cases hmade

theorem notesOnce_move (c : Columns α) (start count target : Nat) :
  c.NotesOnce (.move start count target)
  := by
  cases hmove : c.move? start count target with
  | none =>
    have happly : c.apply (.move start count target) = c := by rw [apply, hmove, Option.getD_none]
    apply notesOnce_of_same
    · rw [happly]
    · rw [happly]
    · rintro made hmade
      rw [Change.report?, hmove] at hmade
      exact (Option.some.inj hmade).symm
  | some c' =>
    have happly : c.apply (.move start count target) = c' := by rw [apply, hmove, Option.getD_some]
    obtain ⟨next, -, hnext⟩ := Option.bind_eq_some_iff.mp hmove
    rw [reorder?] at hnext
    split at hnext
    case isTrue => cases hnext
    case isFalse hother =>
      obtain rfl := Option.some.inj hnext
      constructor
      case notices_eq =>
        rw [happly, if_neg (Ne.symm hother)]
        rfl
      case report_iff =>
        intro made hmade
        rw [Change.report?, hmove] at hmade
        rw [← Option.some.inj hmade, happly]
        exact iff_of_true rfl (Ne.symm hother)

omit [Pixel α] in
theorem swap?_of_lt {a b : Nat} (hne : a ≠ b) (ha : a < c.shown.length) (hb : b < c.shown.length) :
  c.swap? a b = some { c with
    shown := swapItems c.shown a b
    notices := c.notices ++ [.columnsReordered c.shown (swapItems c.shown a b)] }
  := by
  rw [swap?, if_neg]
  omega

/-- An exchange that is made notes and reports a change of the list, and is vain if there is
none. -/
theorem notesOnce_swap_iff (c : Columns α) (a b : Nat) :
  c.NotesOnce (.swap a b) ↔ ¬ (Change.swap a b).IsVain c
  := by
  by_cases hmade : a ≠ b ∧ a < c.shown.length ∧ b < c.shown.length
  · obtain ⟨hne, ha, hb⟩ := hmade
    have hswap := swap?_of_lt hne ha hb
    have happly : c.apply (.swap a b) = { c with
        shown := swapItems c.shown a b
        notices := c.notices ++ [.columnsReordered c.shown (swapItems c.shown a b)] } := by
      rw [apply, hswap, Option.getD_some]
    have hvain : (Change.swap a b).IsVain c ↔ c.shown = (c.apply (.swap a b)).shown := by
      rw [happly, eq_comm, swapItems_eq_self_iff ha hb, Change.IsVain]
      simp [hne, ha, hb, eq_comm]
    rw [hvain]
    constructor
    · intro h
      apply (h.report_iff true _).mp rfl
      rw [Change.report?, hswap, Option.isSome_some]
    · intro hother
      constructor
      case notices_eq =>
        rw [if_neg hother, happly]
        rfl
      case report_iff =>
        intro made hreport
        rw [Change.report?, hswap] at hreport
        rw [← Option.some.inj hreport]
        exact iff_of_true rfl hother
  · have hswap : c.swap? a b = none := by
      rw [swap?, if_pos]
      omega
    have happly : c.apply (.swap a b) = c := by rw [apply, hswap, Option.getD_none]
    apply iff_of_true
    · apply notesOnce_of_same
      · rw [happly]
      · rw [happly]
      · rintro made hreport
        rw [Change.report?, hswap] at hreport
        exact (Option.some.inj hreport).symm
    · rintro ⟨hne, id, ha, hb⟩
      obtain ⟨ha, -⟩ := List.getElem?_eq_some_iff.mp ha
      obtain ⟨hb, -⟩ := List.getElem?_eq_some_iff.mp hb
      apply hmade ⟨hne, ha, hb⟩

theorem shown_notices_foldl_restoreColumn (c : Columns α) (entries : List (ColumnSnapshot α)) :
  (entries.foldl restoreColumn c).shown = c.shown
    ∧ (entries.foldl restoreColumn c).notices = c.notices
  := by
  apply List.foldlRecOn entries restoreColumn
    (motive := fun c' => c'.shown = c.shown ∧ c'.notices = c.notices) ⟨rfl, rfl⟩
  rintro c' ⟨hshown, hnotices⟩ e _
  constructor
  · rw [restoreColumn, shown_modify, hshown]
  · rw [restoreColumn, notices_modify, hnotices]

omit [Pixel α] in
theorem notices_modifyProperties (c : Columns α) (id : ColumnId) (f : Column α → Column α) :
  ((c.modifyProperties id f).toOption.getD c).notices = c.notices
  := by
  rw [modifyProperties]
  cases c.column? id with
  | none => rfl
  | some d => apply notices_modify

/-- A change notes and reports what it does, unless it exchanges a column with itself. -/
theorem notesOnce_iff (c : Columns α) (change : Change α) :
  c.NotesOnce change ↔ ¬ change.IsVain c
  := by
  cases change with
  | swap a b => apply notesOnce_swap_iff
  | showColumns source indexes placement duplicates =>
    exact iff_of_true (notesOnce_of_noteShown rfl rfl (fun _ _ => rfl) rfl) not_false
  | hideColumns source indexes =>
    exact iff_of_true (notesOnce_of_noteShown rfl rfl (fun _ _ => rfl) rfl) not_false
  | setOrder order =>
    exact iff_of_true (notesOnce_of_noteShown rfl rfl (fun _ _ => rfl) rfl) not_false
  | reset schema config =>
    exact iff_of_true (notesOnce_of_noteShown rfl rfl (fun _ _ => rfl) rfl) not_false
  | move start count target => exact iff_of_true (notesOnce_move c start count target) not_false
  | setWidth id width =>
    apply iff_of_true _ not_false
    apply notesOnce_of_same
    · apply shown_modify
    · apply notices_modify
    · rintro made ⟨⟩
  | setProperties id p =>
    apply iff_of_true _ not_false
    apply notesOnce_of_same
    · apply shown_modifyProperties
    · apply notices_modifyProperties
    · rintro made ⟨⟩
  | addProperties id p =>
    apply iff_of_true _ not_false
    apply notesOnce_of_same
    · apply shown_modifyProperties
    · apply notices_modifyProperties
    · rintro made ⟨⟩
  | restore s =>
    obtain ⟨hshown, hnotices⟩ := c.shown_notices_foldl_restoreColumn s.columns
    let restored := s.columns.foldl restoreColumn c
    have happly : c.apply (.restore s)
        = { restored with shown := restored.ordered s.order }.noteShown c.shown := by
      rw [apply, Columns.restore, Columns.setOrder, Columns.setShown, hshown]
    exact iff_of_true (notesOnce_of_noteShown happly hnotices (fun _ _ => rfl) rfl) not_false

/-- An exchange of a column with itself is noted and reported as a change. -/
theorem notices_of_isVain (h : change.IsVain c) :
  (c.apply change).shown = c.shown
    ∧ (c.apply change).notices = c.notices ++ [.columnsReordered c.shown c.shown]
    ∧ change.report? c = some true
  := by
  cases change with
  | swap a b =>
    obtain ⟨hne, id, ha, hb⟩ := h
    obtain ⟨ha, hid⟩ := List.getElem?_eq_some_iff.mp ha
    obtain ⟨hb, hid'⟩ := List.getElem?_eq_some_iff.mp hb
    have hswap := swap?_of_lt hne ha hb
    rw [(swapItems_eq_self_iff ha hb).mpr (hid.trans hid'.symm)] at hswap
    rw [apply, Change.report?, hswap]
    exact ⟨rfl, rfl, rfl⟩
  | _ => cases h

/-! ### Along some changes -/

/-- Every change of a run has a property, which may depend on the columns that it finds. -/
def Throughout (p : Columns α → Change α → Prop) (c : Columns α) : List (Change α) → Prop
  | [] => True
  | change :: rest => p c change ∧ (c.apply change).Throughout p rest

theorem throughout_congr {p q : Columns α → Change α → Prop}
    (h : ∀ c change, p c change ↔ q c change) (c : Columns α) (changes : List (Change α)) :
  c.Throughout p changes ↔ c.Throughout q changes
  := by
  induction changes generalizing c with
  | nil => exact Iff.rfl
  | cons change rest ih => exact and_congr (h c change) (ih _)

omit [Pixel α] in
theorem orderChange?_notice (before after : List ColumnId) (change : Change α) :
  (change.notice before after).orderChange? = some (before, after)
  := by
  cases change <;> rfl

/-- What a change notes tells of a change, unless it exchanges a column with itself. -/
theorem exists_told_apply (c : Columns α) (change : Change α) :
  ∃ told, (c.apply change).notices = c.notices ++ told
    ∧ ((∀ n ∈ told, n.IsReal) ↔ ¬ change.IsVain c)
  := by
  by_cases hvain : change.IsVain c
  · obtain ⟨-, hnotices, -⟩ := notices_of_isVain hvain
    refine ⟨_, hnotices, ?_⟩
    apply iff_of_false _ (not_not_intro hvain)
    intro hreal
    apply hreal _ (List.mem_singleton_self _) _ _ rfl rfl
  · refine ⟨_, ((notesOnce_iff c change).mpr hvain).notices_eq, ?_⟩
    apply iff_of_true _ hvain
    split
    case isTrue => rintro n ⟨⟩
    case isFalse hother =>
      intro n hn before after hchange
      obtain rfl := List.mem_singleton.mp hn
      rw [orderChange?_notice] at hchange
      cases hchange
      apply hother

/-- Along any changes, each change notes and reports once what it does to the list exactly if none
of them exchanges a column with itself, and no notice has two equal lists exactly then. -/
theorem notesOnce_throughout_iff (c : Columns α) (changes : List (Change α)) :
  (c.Throughout NotesOnce changes ↔ c.Throughout (fun c change => ¬ change.IsVain c) changes)
    ∧ ∃ told, (c.applyAll changes).notices = c.notices ++ told
      ∧ ((∀ n ∈ told, n.IsReal) ↔ c.Throughout (fun c change => ¬ change.IsVain c) changes)
  := by
  refine ⟨throughout_congr notesOnce_iff c changes, ?_⟩
  induction changes generalizing c with
  | nil =>
    refine ⟨[], (List.append_nil _).symm, ?_⟩
    apply iff_of_true _ trivial
    rintro n ⟨⟩
  | cons change rest ih =>
    obtain ⟨told, hnotices, hreal⟩ := c.exists_told_apply change
    obtain ⟨told', hnotices', hreal'⟩ := ih (c.apply change)
    refine ⟨told ++ told', ?_, ?_⟩
    · rw [← List.append_assoc, ← hnotices]
      apply hnotices'
    · rw [List.forall_mem_append, hreal, hreal', Throughout]

/-- A column that is shown twice is exchanged with itself. -/
theorem noted_in_vain :
  let c : Columns Rat :=
    (ofSchema (ColumnSchema.ofNames ["A"]) Config.default).apply (.showColumns .all [0] .atEnd true)
  c.shown = [.data 0, .data 0]
    ∧ (c.apply (.swap 0 1)).shown = c.shown
    ∧ (c.apply (.swap 0 1)).notices
      = c.notices ++ [.columnsReordered [.data 0, .data 0] [.data 0, .data 0]]
    ∧ (Change.swap 0 1).report? c = some true
    ∧ ¬ c.NotesOnce (.swap 0 1)
  := by
  intro c
  have hshown : c.shown = [.data 0, .data 0] := by
    simp only [c]
    cbv
  have hvain : (Change.swap 0 1).IsVain c := by
    refine ⟨by decide, .data 0, ?_, ?_⟩
    · rw [hshown]
      rfl
    · rw [hshown]
      rfl
  obtain ⟨hsame, hnotices, hreport⟩ := notices_of_isVain hvain
  rw [hshown] at hnotices
  refine ⟨hshown, hsame, hnotices, hreport, ?_⟩
  intro hnotes
  apply (notesOnce_iff c _).mp hnotes hvain

end Changes

end Columns

end DataGrid
