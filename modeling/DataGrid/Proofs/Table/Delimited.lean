import Mathlib.Data.List.Basic
import DataGrid.Proofs.Table.OpenQuotes
import DataGrid.Proofs.Text.Utf8

/-!
# Documents of quoted fields

A document may quote every field, with each quote inside a field doubled (`Delimited.document`).
The loader cuts a document into lines before it looks at quotes.  So it reads such a document back
as it was written if no field has a line feed, and else it finds a quote that is never closed on the
first line of a field that has one (`Sheet.loads_document_iff`).
-/

namespace DataGrid

/-! ### Lines -/

namespace Text

/-- A line ends at the first line feed. -/
theorem lines_append {line : List Char} (h : '\n' ∉ line) (rest : List Char) :
  lines (line ++ '\n' :: rest) = closeLine line.reverse :: lines rest
  := by
  have hread : ∀ (line read : List Char), '\n' ∉ line →
      linesFrom read (line ++ '\n' :: rest)
        = closeLine (line.reverse ++ read) :: lines rest := by
    intro line
    induction line with
    | nil =>
      intro read _
      rw [List.nil_append, linesFrom, if_pos rfl]
      rfl
    | cons c line ih =>
      intro read hline
      obtain ⟨hc, hline⟩ := not_or.mp (mt List.mem_cons.mpr hline)
      rw [List.cons_append, linesFrom, if_neg (Ne.symm hc), ih _ hline, List.reverse_cons,
        List.append_assoc]
      rfl
  rw [lines, hread line [] h, List.append_nil]

/-- What ends a line has no quote. -/
theorem count_closeLine (read : List Char) :
  (closeLine read).count '"' = read.count '"'
  := by
  unfold closeLine
  split
  · next read =>
    rw [List.count_reverse, List.count_cons_of_ne (by decide)]
  · rw [List.count_reverse]

/-- A line that does not end with a carriage return stays whole. -/
theorem closeLine_reverse {line : List Char} {c : Char} (hc : c ≠ '\r') :
  closeLine (line ++ [c]).reverse = line ++ [c]
  := by
  rw [List.reverse_append, List.reverse_singleton, List.singleton_append]
  unfold closeLine
  split
  · next heq => exact absurd (List.cons.inj heq).1 hc
  · rw [List.reverse_cons, List.reverse_reverse]

end Text

namespace Delimited

/-! ### Lines of quoted fields -/

/-- A line of quoted fields. -/
def line (sep : Char) (fields : List (List Char)) : List Char :=
  [sep].intercalate (fields.map quote)

/-- A document of quoted fields, with a line feed after every record. -/
def document (sep : Char) (records : List (List String)) : List Char :=
  records.flatMap fun fields => line sep (fields.map String.toList) ++ ['\n']

variable {sep : Char}

theorem line_singleton (field : List Char) :
  line sep [field] = quote field
  := List.intercalate_singleton

theorem line_cons_cons (field next : List Char) (rest : List (List Char)) :
  line sep (field :: next :: rest) = quote field ++ sep :: line sep (next :: rest)
  := by
  rw [line, List.map_cons, List.map_cons, List.intercalate_cons_cons, List.append_assoc]
  rfl

/-- A line of quoted fields is read as these fields. -/
theorem fields?_line (hsep : sep ≠ '"') {fields : List (List Char)} (h : fields ≠ []) :
  fields? sep (line sep fields) = some fields
  := by
  apply fields?_intercalate hsep h
  apply List.forall₂_map_right_iff.mpr
  apply List.forall₂_same.mpr
  intro field _
  apply IsWritten.quoted

/-! ### Line feeds -/

/-- A line of quoted fields has no line feeds but those of the fields. -/
theorem not_mem_line (hsep : sep ≠ '\n') {fields : List (List Char)}
    (h : ∀ field ∈ fields, '\n' ∉ field) :
  '\n' ∉ line sep fields
  := by
  induction fields with
  | nil => exact List.not_mem_nil
  | cons field rest ih =>
    have hfield : '\n' ∉ quote field :=
      mt (mem_quote (by decide)).mp (h field List.mem_cons_self)
    cases rest with
    | nil =>
      rw [line_singleton]
      apply hfield
    | cons next rest =>
      rw [line_cons_cons, List.mem_append, List.mem_cons]
      rintro (hin | heq | hin)
      · apply hfield hin
      · apply hsep heq.symm
      · apply ih (fun f hf => h f (List.mem_cons_of_mem _ hf)) hin

/-- Before the first line feed of a line of quoted fields a quote is open. -/
theorem exists_open_quote (hsep : sep ≠ '\n') (hsep' : sep ≠ '"') {fields : List (List Char)}
    (h : ∃ field ∈ fields, '\n' ∈ field) :
  ∃ before after, line sep fields = before ++ '\n' :: after ∧ '\n' ∉ before
    ∧ before.count '"' % 2 = 1
  := by
  induction fields with
  | nil =>
    obtain ⟨_, hmem, -⟩ := h
    cases hmem
  | cons field rest ih =>
    by_cases hfield : '\n' ∈ field
    · -- the line feed is inside the first field, behind its opening quote
      obtain ⟨before, after, rfl, hbefore⟩ := List.eq_append_cons_of_mem hfield
      have hquote : ∃ after', line sep ((before ++ '\n' :: after) :: rest)
          = ('"' :: escape before) ++ '\n' :: after' := by
        have hescape : quote (before ++ '\n' :: after)
            = ('"' :: escape before) ++ '\n' :: (escape after ++ ['"']) := by
          rw [quote, escape_append, escape_cons, if_neg (by decide)]
          simp
        cases rest with
        | nil =>
          refine ⟨escape after ++ ['"'], ?_⟩
          rw [line_singleton, hescape]
        | cons next rest =>
          refine ⟨escape after ++ ['"'] ++ sep :: line sep (next :: rest), ?_⟩
          rw [line_cons_cons, hescape, List.append_assoc]
          rfl
      obtain ⟨after', hline⟩ := hquote
      refine ⟨_, after', hline, ?_, ?_⟩
      · rw [List.mem_cons, mem_escape]
        rintro (heq | hin)
        · cases heq
        · apply hbefore hin
      · rw [List.count_cons_self, count_escape]
        omega
    · -- the first field is complete
      have hrest : ∃ f ∈ rest, '\n' ∈ f := by
        obtain ⟨f, hf, hin⟩ := h
        obtain rfl | hf := List.mem_cons.mp hf
        · exact absurd hin hfield
        · exact ⟨f, hf, hin⟩
      obtain ⟨before, after, hline, hbefore, hcount⟩ := ih hrest
      cases rest with
      | nil =>
        obtain ⟨_, hmem, -⟩ := hrest
        cases hmem
      | cons next rest =>
        refine ⟨quote field ++ sep :: before, after, ?_, ?_, ?_⟩
        · rw [line_cons_cons, hline, List.append_assoc]
          rfl
        · rw [List.mem_append, List.mem_cons, mem_quote (by decide)]
          rintro (hin | heq | hin)
          · apply hfield hin
          · apply hsep heq.symm
          · apply hbefore hin
        · rw [List.count_append, List.count_cons_of_ne hsep', count_quote]
          omega

/-! ### Documents -/

theorem document_cons (fields : List String) (records : List (List String)) :
  document sep (fields :: records)
    = line sep (fields.map String.toList) ++ '\n' :: document sep records
  := by
  rw [document, List.flatMap_cons, List.append_assoc]
  rfl

/-- A line of quoted fields ends with a quote, so nothing of it is taken for the end of the line. -/
theorem closeLine_reverse_line {fields : List (List Char)} (h : fields ≠ []) :
  Text.closeLine (line sep fields).reverse = line sep fields
  := by
  have hend : ∃ start, line sep fields = start ++ ['"'] := by
    induction fields with
    | nil => exact absurd rfl h
    | cons field rest ih =>
      cases rest with
      | nil =>
        rw [line_singleton]
        exact ⟨'"' :: escape field, rfl⟩
      | cons next rest =>
        obtain ⟨start, hstart⟩ := ih (List.cons_ne_nil _ _)
        refine ⟨quote field ++ sep :: start, ?_⟩
        rw [line_cons_cons, hstart, List.append_assoc]
        rfl
  obtain ⟨start, hstart⟩ := hend
  rw [hstart]
  apply Text.closeLine_reverse (by decide)

/-- Without line feeds in fields, every record is a line. -/
theorem lines_document (hsep : sep ≠ '\n') {records : List (List String)}
    (hfields : ∀ fields ∈ records, fields ≠ [])
    (h : ∀ fields ∈ records, ∀ field ∈ fields, '\n' ∉ field.toList) :
  Text.lines (document sep records) = records.map fun fields => line sep (fields.map String.toList)
  := by
  induction records with
  | nil => rfl
  | cons fields records ih =>
    have hne : fields.map String.toList ≠ [] :=
      mt List.map_eq_nil_iff.mp (hfields fields List.mem_cons_self)
    have hline : '\n' ∉ line sep (fields.map String.toList) := by
      apply not_mem_line hsep
      intro field hfield
      obtain ⟨field, hmem, rfl⟩ := List.mem_map.mp hfield
      apply h fields List.mem_cons_self field hmem
    rw [document_cons, Text.lines_append hline, closeLine_reverse_line hne, List.map_cons,
      ih (fun r hr => hfields r (List.mem_cons_of_mem _ hr))
        (fun r hr => h r (List.mem_cons_of_mem _ hr))]

theorem quote_mem_line {fields : List (List Char)} (h : fields ≠ []) :
  '"' ∈ line sep fields
  := by
  match fields with
  | [field] =>
    rw [line_singleton]
    apply List.mem_cons_self
  | field :: next :: rest =>
    rw [line_cons_cons]
    apply List.mem_append_left _ List.mem_cons_self

/-- A line is a record of the fields that are read from it. -/
theorem record_of_fields? {line : List Char} {fields : List String}
    (h : fields? sep line = some (fields.map String.toList)) (n : Nat) :
  record sep (line, n) = .ok fields
  := by
  rw [record, h]
  simp [List.map_map, Function.comp_def]

theorem mapM_record_zipIdx (hsep : sep ≠ '"') {records : List (List String)}
    (hfields : ∀ fields ∈ records, fields ≠ []) (n : Nat) :
  ((records.map fun fields => line sep (fields.map String.toList)).zipIdx n).mapM (record sep)
    = .ok records
  := by
  induction records generalizing n with
  | nil => rfl
  | cons fields records ih =>
    have hne : fields.map String.toList ≠ [] :=
      mt List.map_eq_nil_iff.mp (hfields fields List.mem_cons_self)
    rw [List.map_cons, List.zipIdx_cons, List.mapM_cons, record_of_fields? (fields?_line hsep hne),
      ih (fun r hr => hfields r (List.mem_cons_of_mem _ hr))]
    rfl

/-- A document without line feeds in its fields is read as the records that were written. -/
theorem mapM_record_document (hsep : sep ≠ '\n') (hsep' : sep ≠ '"')
    {records : List (List String)} (hfields : ∀ fields ∈ records, fields ≠ [])
    (h : ∀ fields ∈ records, ∀ field ∈ fields, '\n' ∉ field.toList) :
  (numberedLines (document sep records)).mapM (record sep) = .ok records
  := by
  have hall : numberedLines (document sep records)
      = (records.map fun fields => line sep (fields.map String.toList)).zipIdx 1 := by
    rw [numberedLines, lines_document hsep hfields h]
    apply List.filter_eq_self.mpr
    intro p hp
    obtain ⟨fields, hmem, hline⟩ := List.mem_map.mp (List.fst_mem_of_mem_zipIdx hp)
    have hne : fields.map String.toList ≠ [] := mt List.map_eq_nil_iff.mp (hfields fields hmem)
    rw [← hline, all_isBlank_eq_false (quote_mem_line hne)]
    rfl
  rw [hall, mapM_record_zipIdx hsep' hfields]

/-- With a line feed in a field, some line of the document has an odd number of quotes. -/
theorem exists_odd_line (hsep : sep ≠ '\n') (hsep' : sep ≠ '"') {records : List (List String)}
    (hfields : ∀ fields ∈ records, fields ≠ [])
    (h : ∃ fields ∈ records, ∃ field ∈ fields, '\n' ∈ field.toList) :
  ∃ line ∈ Text.lines (document sep records), line.count '"' % 2 = 1
  := by
  induction records with
  | nil =>
    obtain ⟨_, hmem, -⟩ := h
    cases hmem
  | cons fields records ih =>
    rw [document_cons]
    by_cases hfirst : ∃ field ∈ fields.map String.toList, '\n' ∈ field
    · obtain ⟨before, after, hline, hbefore, hcount⟩ := exists_open_quote hsep hsep' hfirst
      refine ⟨Text.closeLine before.reverse, ?_, ?_⟩
      · rw [hline, List.append_assoc, List.cons_append, Text.lines_append hbefore]
        apply List.mem_cons_self
      · rw [Text.count_closeLine, List.count_reverse, hcount]
    · have hline : '\n' ∉ line sep (fields.map String.toList) := by
        apply not_mem_line hsep
        intro field hfield hin
        apply hfirst ⟨field, hfield, hin⟩
      have hrest : ∃ fields ∈ records, ∃ field ∈ fields, '\n' ∈ field.toList := by
        obtain ⟨r, hr, field, hfield, hin⟩ := h
        obtain rfl | hr := List.mem_cons.mp hr
        · exact absurd ⟨field.toList, List.mem_map_of_mem hfield, hin⟩ hfirst
        · exact ⟨r, hr, field, hfield, hin⟩
      obtain ⟨l, hl, hcount⟩ := ih (fun r hr => hfields r (List.mem_cons_of_mem _ hr)) hrest
      refine ⟨l, ?_, hcount⟩
      rw [Text.lines_append hline]
      apply List.mem_cons_of_mem _ hl

end Delimited

/-! ### Sheets -/

namespace Sheet

/-- The sheet has a column for each field of the header and a row for each record, and its cells hold
the values of the fields. -/
structure Holds (sheet : Sheet) (header : List String) (records : List (List String)) : Prop where
  schema_eq : sheet.schema = ColumnSchema.ofNames header
  rowCount_eq : DataSource.rowCount sheet.table = records.length
  value_eq : ∀ (y : Nat) (fields : List String), records[y]? = some fields →
    ∀ (x : Nat) (field : String), fields[x]? = some field →
      DataSource.value sheet.table x y = CellValue.parse field

theorem holds_ofRecords (header : List String) (records : List (List String)) :
  (ofRecords (header :: records)).Holds header records
  := by
  constructor
  case schema_eq => rfl
  case rowCount_eq => exact List.size_toArray.trans (List.length_map _)
  case value_eq =>
    intro y fields hy x field hx
    obtain ⟨hlt, -⟩ := List.getElem?_eq_some_iff.mp hx
    change ((List.toArray _)[y]?.bind fun row : Array CellValue => row[x]?).getD .empty = _
    rw [List.getElem?_toArray, List.tail_cons, List.getElem?_map, hy, Option.map_some,
      Option.bind_some, Table.padTo, Array.getElem?_append, if_pos (by simpa using hlt),
      List.getElem?_toArray, List.getElem?_map, hx]
    rfl

/-- A document of quoted fields, read from its bytes, gives the sheet of its records if and only if no
field has a line feed. -/
theorem loads_document_iff (d : Delimiter) {header : List String} {records : List (List String)}
    (hheader : header ≠ []) (hwidth : ∀ fields ∈ records, fields.length = header.length) :
  let document := Delimited.document d.char (header :: records)
  (∃ sheet, parse d (Text.Utf8.decode (Text.Utf8.encode document)) = .ok sheet
      ∧ sheet.Holds header records)
    ↔ ∀ fields ∈ header :: records, ∀ field ∈ fields, '\n' ∉ field.toList
  := by
  intro document
  have hfields : ∀ fields ∈ header :: records, fields ≠ [] := by
    intro fields hmem
    obtain rfl | hmem := List.mem_cons.mp hmem
    · apply hheader
    · apply List.ne_nil_of_length_pos
      rw [hwidth fields hmem]
      apply List.length_pos_of_ne_nil hheader
  rw [Text.Utf8.decode_encode]
  constructor
  · rintro ⟨sheet, hsheet, -⟩
    by_contra hnot
    push Not at hnot
    obtain ⟨line, hline, hodd⟩ :=
      Delimited.exists_odd_line d.char_ne.1 d.char_ne.2 hfields hnot
    apply not_isOpen_of_parse hsheet hline (Delimited.isOpen_of_odd hodd)
  · intro h
    refine ⟨ofRecords (header :: records), ?_, holds_ofRecords header records⟩
    rw [parse, Delimited.mapM_record_document d.char_ne.1 d.char_ne.2 hfields h]
    rfl

/-- Separators, quotes and carriage returns in fields are read back. -/
theorem loads_document_iff_quotes :
  let header := ["name", "what was \"said\""]
  let records := [["Doe, Jane", "\"\""], ["1\r", ""]]
  let document := Delimited.document ',' (header :: records)
  header ≠ [] ∧ (∀ fields ∈ records, fields.length = header.length)
    ∧ String.ofList document
      = "\"name\",\"what was \"\"said\"\"\"\n\"Doe, Jane\",\"\"\"\"\"\"\n\"1\r\",\"\"\n"
    ∧ (∀ fields ∈ header :: records, ∀ field ∈ fields, '\n' ∉ field.toList)
    ∧ ((∃ sheet, parse .comma (Text.Utf8.decode (Text.Utf8.encode document)) = .ok sheet
        ∧ sheet.Holds header records)
      ↔ ∀ fields ∈ header :: records, ∀ field ∈ fields, '\n' ∉ field.toList)
  := by
  intro header records document
  have hwidth : ∀ fields ∈ records, fields.length = header.length := by
    decide
  refine ⟨by decide, hwidth, by decide, by decide, ?_⟩
  exact loads_document_iff .comma (by decide) hwidth

/-- A field with a line feed that is properly quoted is taken for one that is never closed. -/
theorem not_loads_lineFeed :
  let document := Delimited.document ',' [["a"], ["x\ny"]]
  String.ofList document = "\"a\"\n\"x\ny\"\n"
    ∧ parse .comma (Text.Utf8.decode (Text.Utf8.encode document))
      = .error (.unterminatedQuote 2)
    ∧ ¬ ∃ sheet, parse .comma (Text.Utf8.decode (Text.Utf8.encode document)) = .ok sheet
  := by
  intro document
  have herror : parse .comma (Text.Utf8.decode (Text.Utf8.encode document))
      = .error (.unterminatedQuote 2) := by
    rw [Text.Utf8.decode_encode]
    rfl
  refine ⟨by decide, herror, ?_⟩
  rintro ⟨sheet, hsheet⟩
  rw [herror] at hsheet
  cases hsheet

end Sheet

end DataGrid
