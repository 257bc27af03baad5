import DataGrid.Proofs.Columns.Change

/-!
# The history of the order

Some notices say how the order of the shown columns has changed.  They are a history
(`IsHistory`) if the first one starts from an order, each later one starts from where the one before
it led, and the last one leads to another order.  Whatever is done to columns, they take down a
history of what it does to their order (`Columns.records_applyAll`).
-/

namespace DataGrid

/-- The changes, each with what was there before and after it, lead from one thing to another
without a gap. -/
def IsHistory {β : Type} (first : β) : List (β × β) → β → Prop
  | [], last => last = first
  | (before, after) :: rest, last => before = first ∧ IsHistory after rest last

theorem IsHistory.append {β : Type} {first middle last : β} {changes changes' : List (β × β)}
    (h : IsHistory first changes middle) (h' : IsHistory middle changes' last) :
  IsHistory first (changes ++ changes') last
  := by
  induction changes generalizing first with
  | nil =>
    obtain rfl : middle = first := h
    apply h'
  | cons change rest ih =>
    obtain ⟨hbefore, hrest⟩ := h
    exact ⟨hbefore, ih hrest⟩

namespace Notice

variable {α : Type}

/-- The order before and after a change of the order. -/
def orderChange? : Notice α → Option (List ColumnId × List ColumnId)
  | .columnsReordered before after => some (before, after)
  | .shownColumnsChanged before after => some (before, after)
  | _ => none

/-- The changes of the order that notices tell of. -/
def orderChanges (notices : List (Notice α)) : List (List ColumnId × List ColumnId) :=
  notices.filterMap orderChange?

@[simp]
theorem orderChanges_append (notices notices' : List (Notice α)) :
  orderChanges (notices ++ notices') = orderChanges notices ++ orderChanges notices'
  := List.filterMap_append

end Notice

open Notice (orderChange? orderChanges orderChanges_append)

/-! ### What columns take down -/

namespace Columns

variable {α : Type} {c c' c'' : Columns α}

/-- The notices that have come to `c'` are a history of its order since it was `c`. -/
def Records (c c' : Columns α) : Prop :=
  ∃ told, c'.notices = c.notices ++ told ∧ IsHistory c.shown (orderChanges told) c'.shown

namespace Records

/-- Where the order stays as it is, nothing need be noted. -/
theorem of_eq (hshown : c'.shown = c.shown) (hnotices : c'.notices = c.notices) :
  c.Records c'
  := by
  refine ⟨[], ?_, hshown⟩
  rw [hnotices, List.append_nil]

theorem trans (h : c.Records c') (h' : c'.Records c'') :
  c.Records c''
  := by
  obtain ⟨told, hnotices, hhistory⟩ := h
  obtain ⟨told', hnotices', hhistory'⟩ := h'
  refine ⟨told ++ told', ?_, ?_⟩
  · rw [hnotices', hnotices, List.append_assoc]
  · rw [orderChanges_append]
    apply hhistory.append hhistory'

end Records

/-- A change that is noted is on record, whatever else changes with the order. -/
theorem records_noteShown (h : c'.notices = c.notices) :
  c.Records (c'.noteShown c.shown)
  := by
  rw [noteShown]
  split
  case isTrue hsame => apply Records.of_eq hsame.symm h
  case isFalse =>
    refine ⟨[.shownColumnsChanged c.shown c'.shown], ?_, rfl, rfl⟩
    rw [← h]

theorem records_setShown (c : Columns α) (next : List ColumnId) :
  c.Records (c.setShown next)
  := records_noteShown rfl

theorem records_reset [Pixel α] (c : Columns α) (schema : List ColumnSchema)
    (config : Config α) :
  c.Records (c.reset schema config)
  := records_noteShown rfl

theorem records_modify (c : Columns α) (id : ColumnId) (f : Column α → Column α) :
  c.Records (c.modify id f)
  := Records.of_eq (shown_modify c id f) (notices_modify c id f)

theorem records_restore [Pixel α] (c : Columns α) (s : Snapshot α) :
  c.Records (c.restore s)
  := by
  have hrestored : c.Records (s.columns.foldl restoreColumn c) := by
    apply List.foldlRecOn s.columns restoreColumn (Records.of_eq rfl rfl)
    intro c' h e _
    apply h.trans (records_modify c' e.id _)
  apply hrestored.trans (records_setShown _ _)

theorem records_move? {start count target : Nat} (h : c.move? start count target = some c') :
  c.Records c'
  := by
  obtain ⟨next, -, h⟩ := Option.bind_eq_some_iff.mp h
  rw [reorder?] at h
  split at h
  · cases h
  · obtain rfl := Option.some.inj h
    exact ⟨[.columnsReordered c.shown next], rfl, rfl, rfl⟩

/-- A change that is refused is not on record. -/
theorem records_modifyProperties (c : Columns α) (id : ColumnId) (f : Column α → Column α) :
  c.Records ((c.modifyProperties id f).toOption.getD c)
  := by
  rw [modifyProperties]
  cases c.column? id with
  | none => exact .of_eq rfl rfl
  | some d => apply records_modify

theorem records_swap? {a b : Nat} (h : c.swap? a b = some c') :
  c.Records c'
  := by
  rw [swap?] at h
  split at h
  · cases h
  · obtain rfl := Option.some.inj h
    exact ⟨[.columnsReordered c.shown (swapItems c.shown a b)], rfl, rfl, rfl⟩

theorem records_apply [Pixel α] (c : Columns α) (change : Change α) :
  c.Records (c.apply change)
  := by
  cases change with
  | showColumns source indexes placement duplicates => apply records_setShown
  | hideColumns source indexes => apply records_setShown
  | move start count target =>
    rw [apply]
    cases h : c.move? start count target with
    | none => exact .of_eq rfl rfl
    | some c' => apply records_move? h
  | swap a b =>
    rw [apply]
    cases h : c.swap? a b with
    | none => exact .of_eq rfl rfl
    | some c' => apply records_swap? h
  | setOrder order => apply records_setShown
  | setWidth id width => apply records_modify
  | setProperties id p => apply records_modifyProperties
  | addProperties id p => apply records_modifyProperties
  | restore s => apply records_restore
  | reset schema config => apply records_reset

/-- Whatever changes are asked for, what is noted of the order is its history. -/
theorem records_applyAll [Pixel α] (c : Columns α) (changes : List (Change α)) :
  c.Records (c.applyAll changes)
  := by
  apply List.foldlRecOn changes Columns.apply (Records.of_eq rfl rfl)
  intro c' h change _
  apply h.trans (records_apply c' change)

/-! ### Nothing but the order -/

/-- Whatever notices have come to `c'` since it was `c` tell of changes of the order. -/
def NotesOrder (c c' : Columns α) : Prop :=
  ∃ told, c'.notices = c.notices ++ told ∧ ∀ n ∈ told, n.orderChange?.isSome = true

namespace NotesOrder

theorem of_eq (h : c'.notices = c.notices) :
  c.NotesOrder c'
  := by
  refine ⟨[], ?_, ?_⟩
  · rw [h, List.append_nil]
  · rintro n ⟨⟩

theorem trans (h : c.NotesOrder c') (h' : c'.NotesOrder c'') :
  c.NotesOrder c''
  := by
  obtain ⟨told, hnotices, horder⟩ := h
  obtain ⟨told', hnotices', horder'⟩ := h'
  refine ⟨told ++ told', ?_, ?_⟩
  · rw [hnotices', hnotices, List.append_assoc]
  · intro n hn
    obtain hn | hn := List.mem_append.mp hn
    · apply horder n hn
    · apply horder' n hn

end NotesOrder

theorem notesOrder_noteShown {shown : List ColumnId} (h : c'.notices = c.notices) :
  c.NotesOrder (c'.noteShown shown)
  := by
  rw [noteShown]
  split
  case isTrue => apply NotesOrder.of_eq h
  case isFalse =>
    refine ⟨[.shownColumnsChanged shown c'.shown], ?_, ?_⟩
    · rw [← h]
    · intro n hn
      obtain rfl := List.mem_singleton.mp hn
      rfl

theorem notesOrder_setShown (c : Columns α) (next : List ColumnId) :
  c.NotesOrder (c.setShown next)
  := notesOrder_noteShown rfl

theorem notesOrder_reset [Pixel α] (c : Columns α) (schema : List ColumnSchema)
    (config : Config α) :
  c.NotesOrder (c.reset schema config)
  := notesOrder_noteShown rfl

theorem notesOrder_restore [Pixel α] (c : Columns α) (s : Snapshot α) :
  c.NotesOrder (c.restore s)
  := by
  have hrestored : c.NotesOrder (s.columns.foldl restoreColumn c) := by
    apply List.foldlRecOn s.columns restoreColumn (NotesOrder.of_eq rfl)
    intro c' h e _
    apply h.trans (NotesOrder.of_eq (notices_modify c' e.id _))
  apply hrestored.trans (notesOrder_setShown _ _)

theorem notesOrder_move? {start count target : Nat} (h : c.move? start count target = some c') :
  c.NotesOrder c'
  := by
  obtain ⟨next, -, h⟩ := Option.bind_eq_some_iff.mp h
  rw [reorder?] at h
  split at h
  · cases h
  · obtain rfl := Option.some.inj h
    refine ⟨[.columnsReordered c.shown next], rfl, ?_⟩
    intro n hn
    obtain rfl := List.mem_singleton.mp hn
    rfl

end Columns

end DataGrid
