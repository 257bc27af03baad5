import DataGrid.Proofs.Table.Delimited

/-!
# Commas and tabs

The same table can be written with commas and with tabs, its fields as they stand
(`Delimited.plainText`).  With commas it is always read back.  With tabs a line whose fields are all
blank is blank, because a tab is white space, and is skipped.  So the two texts give the same sheet
exactly if every line has a field that is not blank (`Sheet.loads_alike_iff`).
-/

namespace DataGrid

/-! ### Lines -/

namespace Text

/-- A line without a carriage return at its end stays whole. -/
theorem closeLine_reverse_of_not_mem {line : List Char} (h : '\r' ∉ line) :
  closeLine line.reverse = line
  := by
  obtain rfl | ⟨start, c, rfl⟩ := line.eq_nil_or_concat
  · rfl
  · rw [List.concat_eq_append] at h ⊢
    apply closeLine_reverse
    rintro rfl
    apply h (List.mem_append_right _ (List.mem_singleton_self _))

/-- A text without line feeds is one line. -/
theorem lines_of_not_mem {line : List Char} (h : '\n' ∉ line) (hne : line ≠ []) :
  lines line = [line]
  := by
  have hread : ∀ line read : List Char, '\n' ∉ line → line ≠ [] ∨ read ≠ [] →
      linesFrom read line = [read.reverse ++ line] := by
    intro line
    induction line with
    | nil =>
      intro read _ hread
      have hread : read ≠ [] := hread.resolve_left (· rfl)
      rw [linesFrom, if_neg (by simpa using hread), List.append_nil]
    | cons c line ih =>
      intro read hline _
      obtain ⟨hc, hline⟩ := not_or.mp (mt List.mem_cons.mpr hline)
      rw [linesFrom, if_neg (Ne.symm hc), ih _ hline (Or.inr (List.cons_ne_nil _ _)),
        List.reverse_cons, List.append_assoc]
      rfl
  exact hread line [] h (Or.inl hne)

/-- Lines with line feeds between them, and perhaps one after the last, are the lines of the
text. -/
theorem lines_intercalate {rows : List (List Char)} (hne : ∀ row ∈ rows, row ≠ [])
    (h : ∀ row ∈ rows, '\n' ∉ row ∧ '\r' ∉ row) (hrows : rows ≠ []) (ended : Bool) :
  lines (['\n'].intercalate rows ++ if ended then ['\n'] else []) = rows
  := by
  induction rows with
  | nil => exact absurd rfl hrows
  | cons row rest ih =>
    obtain ⟨hfeed, hreturn⟩ := h row List.mem_cons_self
    cases rest with
    | nil =>
      rw [List.intercalate_singleton]
      cases ended with
      | false =>
        have hrow := hne row List.mem_cons_self
        rw [if_neg (by decide), List.append_nil, lines_of_not_mem hfeed hrow]
      | true =>
        rw [if_pos rfl, lines_append hfeed, closeLine_reverse_of_not_mem hreturn]
        rfl
    | cons next rest =>
      rw [List.intercalate_cons_cons, List.append_assoc, List.append_assoc, List.singleton_append,
        lines_append hfeed, closeLine_reverse_of_not_mem hreturn,
        ih (fun r hr => hne r (List.mem_cons_of_mem _ hr))
          (fun r hr => h r (List.mem_cons_of_mem _ hr)) (List.cons_ne_nil _ _)]

end Text

namespace Delimited

/-! ### Plain fields -/

/-- The field has none of the characters that separate, quote or end anything. -/
def IsPlain (field : String) : Prop :=
  ∀ c ∈ field.toList, c ∉ [',', '\t', '"', '\n', '\r']

instance : DecidablePred IsPlain := fun field => List.decidableBAll _ field.toList

/-- The field is empty or white space. -/
def IsBlank (field : String) : Prop := field.toList.all Text.isBlank = true

instance : DecidablePred IsBlank := fun field =>
  inferInstanceAs (Decidable (field.toList.all Text.isBlank = true))

/-- A line of fields as they stand. -/
def plainLine (sep : Char) (fields : List String) : List Char :=
  [sep].intercalate (fields.map String.toList)

/-- The lines of a table with line feeds between them, and one after the last if it is `ended`. -/
def plainText (sep : Char) (ended : Bool) (rows : List (List String)) : List Char :=
  ['\n'].intercalate (rows.map (plainLine sep)) ++ if ended then ['\n'] else []

/-- Every row has at least two fields, and all fields are plain. -/
def IsPlainTable (rows : List (List String)) : Prop :=
  ∀ fields ∈ rows, 2 ≤ fields.length ∧ ∀ field ∈ fields, IsPlain field

instance : DecidablePred IsPlainTable := fun rows => List.decidableBAll _ rows

variable {sep : Char} {fields : List String} {rows : List (List String)}

theorem IsPlain.not_mem {field : String} (h : IsPlain field) :
  (∀ d : Delimiter, d.char ∉ field.toList) ∧ '"' ∉ field.toList ∧ '\n' ∉ field.toList
    ∧ '\r' ∉ field.toList
  := by
  refine ⟨?_, ?_, ?_, ?_⟩
  · intro d hd
    apply h _ hd
    cases d <;> decide
  all_goals
    intro hc
    apply h _ hc
    decide

theorem plainLine_cons_cons (field next : String) (rest : List String) :
  plainLine sep (field :: next :: rest) = field.toList ++ sep :: plainLine sep (next :: rest)
  := by
  rw [plainLine, List.map_cons, List.map_cons, List.intercalate_cons_cons, List.append_assoc]
  rfl

/-- In a line stand the characters of its fields and separators. -/
theorem mem_plainLine {c : Char} (h : c ∈ plainLine sep fields) :
  c = sep ∨ ∃ field ∈ fields, c ∈ field.toList
  := by
  induction fields with
  | nil => cases h
  | cons field rest ih =>
    cases rest with
    | nil =>
      rw [plainLine, List.map_singleton, List.intercalate_singleton] at h
      exact Or.inr ⟨field, List.mem_singleton_self _, h⟩
    | cons next rest =>
      rw [plainLine_cons_cons, List.mem_append, List.mem_cons] at h
      obtain h | h | h := h
      · exact Or.inr ⟨field, List.mem_cons_self, h⟩
      · exact Or.inl h
      · obtain h | ⟨f, hf, hc⟩ := ih h
        · exact Or.inl h
        · exact Or.inr ⟨f, List.mem_cons_of_mem _ hf, hc⟩

theorem sep_mem_plainLine (h : 2 ≤ fields.length) :
  sep ∈ plainLine sep fields
  := by
  match fields, h with
  | field :: next :: rest, _ =>
    rw [plainLine_cons_cons]
    apply List.mem_append_right _ List.mem_cons_self

/-- With a separator that is white space, a line is blank exactly if all its fields are. -/
theorem all_isBlank_plainLine (hsep : Text.isBlank sep = true) (fields : List String) :
  (plainLine sep fields).all Text.isBlank = true ↔ ∀ field ∈ fields, IsBlank field
  := by
  induction fields with
  | nil => simp [plainLine]
  | cons field rest ih =>
    cases rest with
    | nil => simp [plainLine, IsBlank]
    | cons next rest =>
      rw [plainLine_cons_cons, List.all_append, List.all_cons, hsep, Bool.true_and,
        Bool.and_eq_true, ih]
      exact (List.forall_mem_cons (p := IsBlank)).symm

/-! ### Texts of plain fields -/

/-- A line of plain fields is read as these fields. -/
theorem record_plainLine (d : Delimiter) (hne : fields ≠ []) (h : ∀ field ∈ fields, IsPlain field)
    (n : Nat) :
  record d.char (plainLine d.char fields, n) = .ok fields
  := by
  apply record_of_fields?
  apply fields?_intercalate d.char_ne.2 (mt List.map_eq_nil_iff.mp hne)
  apply List.forall₂_same.mpr
  intro field hfield
  obtain ⟨field, hmem, rfl⟩ := List.mem_map.mp hfield
  obtain ⟨hsep, hquote, -⟩ := (h field hmem).not_mem
  apply IsWritten.bare (hsep d) hquote

/-- Of a table in plain lines, those that are not blank are read. -/
theorem mapM_record_plainLine (d : Delimiter) (h : IsPlainTable rows) (n : Nat) :
  (((rows.map (plainLine d.char)).zipIdx n).filter fun l => !l.1.all Text.isBlank).mapM
      (record d.char)
    = .ok (rows.filter fun fields => !(plainLine d.char fields).all Text.isBlank)
  := by
  induction rows generalizing n with
  | nil => rfl
  | cons fields rows ih =>
    obtain ⟨hlength, hplain⟩ := h fields List.mem_cons_self
    have hne : fields ≠ [] := List.ne_nil_of_length_pos (Nat.lt_of_lt_of_le Nat.zero_lt_two hlength)
    have hrest := ih (fun r hr => h r (List.mem_cons_of_mem _ hr)) (n + 1)
    rw [List.map_cons, numbered_cons, List.filter_cons]
    cases (plainLine d.char fields).all Text.isBlank with
    | true => exact hrest
    | false =>
      rw [if_neg (by decide), List.mapM_cons, record_plainLine d hne hplain, hrest]
      rfl

theorem lines_plainText (d : Delimiter) (hrows : rows ≠ []) (h : IsPlainTable rows) (ended : Bool) :
  Text.lines (plainText d.char ended rows) = rows.map (plainLine d.char)
  := by
  apply Text.lines_intercalate
  · intro row hrow
    obtain ⟨fields, hfields, rfl⟩ := List.mem_map.mp hrow
    exact List.ne_nil_of_mem (sep_mem_plainLine (h fields hfields).1)
  · intro row hrow
    obtain ⟨fields, hfields, rfl⟩ := List.mem_map.mp hrow
    have hchars : ∀ c ∈ plainLine d.char fields, c ≠ '\n' ∧ c ≠ '\r' := by
      intro c hc
      obtain rfl | ⟨field, hfield, hc⟩ := mem_plainLine hc
      · cases d <;> decide
      · obtain ⟨-, -, hfeed, hreturn⟩ := ((h fields hfields).2 field hfield).not_mem
        exact ⟨ne_of_mem_of_not_mem hc hfeed, ne_of_mem_of_not_mem hc hreturn⟩
    exact ⟨fun hc => (hchars _ hc).1 rfl, fun hc => (hchars _ hc).2 rfl⟩
  · exact mt List.map_eq_nil_iff.mp hrows

end Delimited

/-! ### Sheets -/

namespace Sheet

open Delimited

variable {header : List String} {records rows : List (List String)}

/-- The sheets have the same columns, as many rows, and the same values in all cells. -/
structure IsLike (s t : Sheet) : Prop where
  schema_eq : s.schema = t.schema
  rowCount_eq : DataSource.rowCount s.table = DataSource.rowCount t.table
  value_eq : ∀ x y, DataSource.value s.table x y = DataSource.value t.table x y

theorem parse_plainText (d : Delimiter) (hrows : rows ≠ []) (h : IsPlainTable rows) (ended : Bool) :
  parse d (plainText d.char ended rows)
    = .ok (ofRecords (rows.filter fun fields => !(plainLine d.char fields).all Text.isBlank))
  := by
  rw [parse, numberedLines, lines_plainText d hrows h, mapM_record_plainLine d h]
  rfl

/-- A line with commas is never blank, so every row is kept. -/
theorem parse_commas (hrows : rows ≠ []) (h : IsPlainTable rows) (ended : Bool) :
  parse .comma (plainText Delimiter.comma.char ended rows) = .ok (ofRecords rows)
  := by
  have hall : ∀ fields ∈ rows,
      (!(plainLine Delimiter.comma.char fields).all Text.isBlank) = true := by
    intro fields hfields
    have hline : (plainLine Delimiter.comma.char fields).all Text.isBlank = false := by
      apply List.all_eq_false.mpr
      exact ⟨',', sep_mem_plainLine (h fields hfields).1, by decide⟩
    rw [hline]
    rfl
  rw [parse_plainText .comma hrows h, List.filter_eq_self.mpr hall]

/-- A line with tabs between blank fields is blank, so the row is passed over. -/
theorem parse_tabs (hrows : rows ≠ []) (h : IsPlainTable rows) (ended : Bool) :
  parse .tab (plainText Delimiter.tab.char ended rows)
    = .ok (ofRecords (rows.filter fun fields => ∃ field ∈ fields, ¬ IsBlank field))
  := by
  rw [parse_plainText .tab hrows h]
  congr 2
  apply List.filter_congr
  intro fields _
  apply Bool.eq_iff_iff.mpr
  rw [Bool.not_eq_true', ← Bool.not_eq_true, all_isBlank_plainLine (by decide), decide_eq_true_iff]
  push Not
  rfl

theorem map_name_ofNames (names : List String) :
  (ColumnSchema.ofNames names).map (·.name) = names
  := by
  rw [ColumnSchema.ofNames, List.map_map]
  apply List.zipIdx_map_fst

/-- Without some of its rows or its header a sheet is not the same. -/
theorem isLike_filter_iff (hheader : header ≠ []) (p : List String → Bool) :
  (ofRecords (header :: records)).IsLike (ofRecords ((header :: records).filter p))
    ↔ ∀ fields ∈ header :: records, p fields = true
  := by
  constructor
  · intro h
    cases hp : p header with
    | true =>
      have hcount := h.rowCount_eq
      rw [List.filter_cons_of_pos hp] at hcount
      change (List.toArray _).size = (List.toArray _).size at hcount
      rw [List.size_toArray, List.size_toArray, List.length_map, List.length_map, List.tail_cons,
        List.tail_cons, eq_comm, List.length_filter_eq_length_iff] at hcount
      exact List.forall_mem_cons.mpr ⟨hp, hcount⟩
    | false =>
      -- the names of the columns are those of another record, or there is none
      have hnames := congrArg (List.map (·.name)) h.schema_eq
      rw [List.filter_cons_of_neg (by simp [hp])] at hnames
      change (ColumnSchema.ofNames header).map _
        = (ColumnSchema.ofNames ((records.filter p).headD [])).map _ at hnames
      rw [map_name_ofNames, map_name_ofNames] at hnames
      cases hkept : records.filter p with
      | nil =>
        rw [hkept] at hnames
        exact absurd hnames hheader
      | cons first rest =>
        have hfirst : first ∈ records.filter p := by
          rw [hkept]
          apply List.mem_cons_self
        rw [hkept, List.headD_cons] at hnames
        rw [hnames, (List.mem_filter.mp hfirst).2] at hp
        cases hp
  · intro hall
    rw [List.filter_eq_self.mpr hall]
    exact ⟨rfl, rfl, fun _ _ => rfl⟩

/-- A table of plain fields is read back from its text with commas, and from its text with tabs the
same table is read exactly if every line has a field that is not blank. -/
theorem loads_alike_iff (h : IsPlainTable (header :: records)) (ended : Bool) :
  let text (d : Delimiter) := Text.Utf8.encode (plainText d.char ended (header :: records))
  ∃ commas tabs,
    parse .comma (Text.Utf8.decode (text .comma)) = .ok commas
      ∧ parse .tab (Text.Utf8.decode (text .tab)) = .ok tabs
      ∧ commas.Holds header records
      ∧ (commas.IsLike tabs ↔ ∀ fields ∈ header :: records, ∃ field ∈ fields, ¬ IsBlank field)
  := by
  intro text
  have hheader : header ≠ [] := by
    obtain ⟨hlength, -⟩ := h header List.mem_cons_self
    exact List.ne_nil_of_length_pos (Nat.lt_of_lt_of_le Nat.zero_lt_two hlength)
  have hcommas := parse_commas (List.cons_ne_nil header records) h ended
  have htabs := parse_tabs (List.cons_ne_nil header records) h ended
  rw [Text.Utf8.decode_encode, Text.Utf8.decode_encode]
  refine ⟨_, _, hcommas, htabs, holds_ofRecords header records, ?_⟩
  rw [isLike_filter_iff hheader]
  simp only [decide_eq_true_iff]

/-- Fields may be empty or blank, if there is another one on their line. -/
theorem loads_alike_iff_sparse :
  let header := ["", "name"]
  let records := [["1", " "], ["", "x y"]]
  let text (d : Delimiter) := Text.Utf8.encode (plainText d.char false (header :: records))
  IsPlainTable (header :: records)
    ∧ String.ofList (plainText '\t' false (header :: records)) = "\tname\n1\t \n\tx y"
    ∧ (∀ fields ∈ header :: records, ∃ field ∈ fields, ¬ IsBlank field)
    ∧ ∃ commas tabs,
        parse .comma (Text.Utf8.decode (text .comma)) = .ok commas
          ∧ parse .tab (Text.Utf8.decode (text .tab)) = .ok tabs
          ∧ commas.Holds header records
          ∧ commas.IsLike tabs
  := by
  intro header records text
  have hplain : IsPlainTable (header :: records) := by decide
  have hfilled : ∀ fields ∈ header :: records, ∃ field ∈ fields, ¬ IsBlank field := by decide
  obtain ⟨commas, tabs, hcommas, htabs, hholds, hlike⟩ := loads_alike_iff hplain false
  exact ⟨hplain, by decide, hfilled, commas, tabs, hcommas, htabs, hholds, hlike.mpr hfilled⟩

/-- A row of empty fields is read with commas and lost with tabs. -/
theorem lost_with_tabs :
  let rows := [["a", "b"], ["", ""], ["x", "y"]]
  IsPlainTable rows
    ∧ String.ofList (plainText '\t' true rows) = "a\tb\n\t\nx\ty\n"
    ∧ ∃ commas tabs,
        parse .comma (plainText ',' true rows) = .ok commas
          ∧ parse .tab (plainText '\t' true rows) = .ok tabs
          ∧ DataSource.rowCount commas.table = 2
          ∧ DataSource.rowCount tabs.table = 1
          ∧ ¬ commas.IsLike tabs
  := by
  intro rows
  have hplain : IsPlainTable rows := by decide
  refine ⟨hplain, by decide, _, _, parse_commas (List.cons_ne_nil _ _) hplain true,
    parse_tabs (List.cons_ne_nil _ _) hplain true, rfl, rfl, ?_⟩
  intro hlike
  have hcount := hlike.rowCount_eq
  cases hcount

end Sheet

end DataGrid
