import Mathlib.Data.List.Basic
import Mathlib.Data.List.Forall2
import DataGrid.Table.Delimited

/-!
# The fields of a line

A field is written bare, if there is neither a separator nor a quote in it, or in quotes with each
quote inside doubled (`IsWritten`).  From a line of such fields the fields themselves are read
(`record_intercalate`).  Of any other line as well, the quotes alone tell what is read: the fields
are found unless the number of quotes is odd (`fieldsFrom_eq_none_iff`), and a separator ends a field
if the number of quotes in front of it is even (`length_of_fieldsFrom`).
-/

namespace DataGrid

theorem Delimiter.char_ne (d : Delimiter) :
  d.char ≠ '\n' ∧ d.char ≠ '"'
  := by
  cases d <;> decide

namespace Delimited

/-! ### Quotes -/

/-- A text with every quote doubled. -/
def escape (text : List Char) : List Char :=
  text.flatMap fun c => if c = '"' then ['"', '"'] else [c]

/-- A field in quotes. -/
def quote (field : List Char) : List Char := '"' :: (escape field ++ ['"'])

theorem escape_cons (c : Char) (text : List Char) :
  escape (c :: text) = (if c = '"' then ['"', '"'] else [c]) ++ escape text
  := rfl

theorem escape_append (text rest : List Char) :
  escape (text ++ rest) = escape text ++ escape rest
  := List.flatMap_append

theorem mem_escape {c : Char} {text : List Char} :
  c ∈ escape text ↔ c ∈ text
  := by
  induction text with
  | nil => rfl
  | cons d text ih =>
    rw [escape_cons, List.mem_append, ih, List.mem_cons]
    apply or_congr_left
    split
    · next hd => simp [hd]
    · simp

theorem count_escape (text : List Char) :
  (escape text).count '"' = 2 * text.count '"'
  := by
  induction text with
  | nil => rfl
  | cons c text ih =>
    rw [escape_cons, List.count_append, ih, List.count_cons]
    split
    · next hc => simp [hc]; omega
    · next hc => simp [hc]

theorem count_quote (field : List Char) :
  (quote field).count '"' = 2 * (field.count '"' + 1)
  := by
  rw [quote, List.count_cons_self, List.count_append, count_escape, List.count_singleton_self]
  omega

theorem mem_quote {c : Char} {field : List Char} (hc : c ≠ '"') :
  c ∈ quote field ↔ c ∈ field
  := by
  rw [quote, List.mem_cons, List.mem_append, mem_escape, List.mem_singleton]
  simp [hc]

/-! ### Written fields -/

/-- The ways to write a field. -/
inductive IsWritten (sep : Char) (field : List Char) : List Char → Prop where
  | bare (hsep : sep ∉ field) (hquote : '"' ∉ field) : IsWritten sep field field
  | quoted : IsWritten sep field (quote field)

/-- Behind the opening quote a field is read up to the quote that closes it. -/
theorem fieldsFrom_escape (sep : Char) (read field : List Char) {rest : List Char}
    (hrest : rest.head? ≠ some '"') :
  fieldsFrom sep true read (escape field ++ '"' :: rest)
    = fieldsFrom sep false (field.reverse ++ read) rest
  := by
  induction field generalizing read with
  | nil =>
    rw [escape, List.flatMap_nil, List.nil_append, fieldsFrom, if_pos rfl]
    · rfl
    · rintro rest' - rfl
      apply hrest rfl
  | cons c field ih =>
    rw [escape_cons, List.append_assoc, List.reverse_cons, List.append_assoc]
    split
    · next hc =>
      subst hc
      change fieldsFrom sep true read ('"' :: '"' :: (escape field ++ '"' :: rest)) = _
      rw [fieldsFrom, ih]
      rfl
    · next hc =>
      rw [List.singleton_append, fieldsFrom, if_neg hc, ih]
      · rfl
      · rintro rest' h -
        apply hc h

variable {sep : Char}

/-- A quoted field is read as the field. -/
theorem fieldsFrom_quote (field : List Char) {rest : List Char} (hrest : rest.head? ≠ some '"') :
  fieldsFrom sep false [] (quote field ++ rest) = fieldsFrom sep false field.reverse rest
  := by
  rw [quote, List.cons_append, fieldsFrom, if_pos rfl, List.append_assoc, List.singleton_append,
    fieldsFrom_escape sep [] field hrest, List.append_nil]

/-- A bare field is read as it stands. -/
theorem fieldsFrom_bare {field : List Char} (hsep : sep ∉ field) (hquote : '"' ∉ field)
    (read rest : List Char) :
  fieldsFrom sep false read (field ++ rest) = fieldsFrom sep false (field.reverse ++ read) rest
  := by
  induction field generalizing read with
  | nil => rfl
  | cons c field ih =>
    obtain ⟨hc, hsep⟩ := not_or.mp (mt List.mem_cons.mpr hsep)
    obtain ⟨hc', hquote⟩ := not_or.mp (mt List.mem_cons.mpr hquote)
    rw [List.cons_append, fieldsFrom, if_neg (Ne.symm hc'), if_neg (Ne.symm hc), ih hsep hquote,
      List.reverse_cons, List.append_assoc]
    rfl

/-- A written field is read as the field, unless a quote follows it. -/
theorem fieldsFrom_written {field text rest : List Char} (h : IsWritten sep field text)
    (hrest : rest.head? ≠ some '"') :
  fieldsFrom sep false [] (text ++ rest) = fieldsFrom sep false field.reverse rest
  := by
  cases h with
  | bare hsep hquote => rw [fieldsFrom_bare hsep hquote, List.append_nil]
  | quoted => exact fieldsFrom_quote field hrest

/-- A line of written fields is read as these fields. -/
theorem fields?_intercalate (hsep : sep ≠ '"') {fields texts : List (List Char)} (hne : fields ≠ [])
    (h : List.Forall₂ (IsWritten sep) fields texts) :
  fields? sep ([sep].intercalate texts) = some fields
  := by
  induction h with
  | nil => exact absurd rfl hne
  | @cons field text fields texts hfield hrest ih =>
    cases hrest with
    | nil =>
      rw [List.intercalate_singleton, fields?, ← List.append_nil text,
        fieldsFrom_written hfield (by simp), fieldsFrom, List.reverse_reverse]
    | @cons next text' fields texts hnext hrest =>
      -- a separator follows the first field, so its closing quote is not taken for a doubled one
      have hhead : (sep :: [sep].intercalate (text' :: texts)).head? ≠ some '"' := by
        rw [List.head?_cons]
        apply fun heq => hsep (Option.some.inj heq)
      have hih := ih (List.cons_ne_nil _ _)
      rw [fields?] at hih
      rw [List.intercalate_cons_cons, List.append_assoc, List.singleton_append, fields?,
        fieldsFrom_written hfield hhead, fieldsFrom, if_neg hsep, if_pos rfl, List.reverse_reverse,
        hih]
      rfl

/-- Fields that are written bare or in quotes and joined with separators are read back, whatever
characters are in them. -/
theorem record_intercalate (d : Delimiter) (n : Nat) {fields : List String}
    {texts : List (List Char)} (hne : fields ≠ [])
    (h : List.Forall₂ (fun field text => IsWritten d.char field.toList text) fields texts) :
  record d.char ([d.char].intercalate texts, n) = .ok fields
  := by
  have hne' : fields.map String.toList ≠ [] := mt List.map_eq_nil_iff.mp hne
  have hfields : fields? d.char ([d.char].intercalate texts) = some (fields.map String.toList) := by
    apply fields?_intercalate d.char_ne.2 hne'
    apply List.forall₂_map_left_iff.mpr h
  rw [record, hfields]
  simp [List.map_map, Function.comp_def]

/-- Quotes at the start and at the end of a field, separators, a line feed and an empty field are
read back, and so is a bare field between quoted ones. -/
theorem record_intercalate_mixed :
  let fields := ["\"a\"", "b", ",", "", "x\ny", "\""]
  let texts := [quote ['"', 'a', '"'], ['b'], quote [','], [], quote ['x', '\n', 'y'], quote ['"']]
  fields ≠ []
    ∧ String.ofList ([','].intercalate texts)
      = "\"\"\"a\"\"\",b,\",\",,\"x\ny\",\"\"\"\""
    ∧ List.Forall₂ (fun field text => IsWritten Delimiter.comma.char field.toList text) fields texts
    ∧ record ',' ([','].intercalate texts, 1) = .ok fields
  := by
  intro fields texts
  have hwritten : List.Forall₂
      (fun field text => IsWritten Delimiter.comma.char field.toList text) fields texts := by
    refine .cons .quoted (.cons (.bare ?_ ?_) (.cons .quoted (.cons (.bare ?_ ?_)
      (.cons .quoted (.cons .quoted .nil)))))
    · decide
    · decide
    · decide
    · decide
  refine ⟨by decide, by decide, hwritten, ?_⟩
  exact record_intercalate .comma 1 (by decide) hwritten

/-! ### Any line -/

/-- A line with a quote is not blank. -/
theorem all_isBlank_eq_false {text : List Char} (h : '"' ∈ text) :
  text.all Text.isBlank = false
  := by
  apply List.all_eq_false.mpr
  exact ⟨'"', h, by decide⟩

/-- The fields of a line are found unless the number of its quotes is odd. -/
theorem fieldsFrom_eq_none_iff (sep : Char) (quoted : Bool) (read line : List Char) :
  fieldsFrom sep quoted read line = none ↔ (line.count '"' + quoted.toNat) % 2 = 1
  := by
  fun_induction fieldsFrom sep quoted read line with
  | case1 read => simp
  | case2 read => simp
  | case3 read rest ih =>
    rw [ih, List.count_cons_self, List.count_cons_self]
    omega
  | case4 read rest hnext ih =>
    rw [ih, List.count_cons_self, Bool.toNat_true, Bool.toNat_false]
    omega
  | case5 read c rest hnext hc ih => rw [ih, List.count_cons_of_ne hc]
  | case6 read rest ih => rw [ih, List.count_cons_self, Bool.toNat_true, Bool.toNat_false]
  | case7 read rest hsep ih => rw [Option.map_eq_none_iff, ih, List.count_cons_of_ne hsep]
  | case8 read c rest hc hsep ih => rw [ih, List.count_cons_of_ne hc]

/-- The number of separators of a line with an even number of quotes in front of them, where `n`
quotes stand in front of the line. -/
def separators (sep : Char) (n : Nat) (chars : List Char) : Nat :=
  (List.range chars.length).countP fun i =>
    chars[i]? = some sep ∧ (n + (chars.take i).count '"') % 2 = 0

theorem separators_cons (n : Nat) (c : Char) (line : List Char) :
  separators sep n (c :: line)
    = separators sep (if c = '"' then n + 1 else n) line + if c = sep ∧ n % 2 = 0 then 1 else 0
  := by
  rw [separators, List.length_cons, List.range_succ_eq_map, List.countP_cons, List.countP_map]
  congr 1
  · apply List.countP_congr
    intro i _
    have hquotes : n + ((c :: line).take (i + 1)).count '"'
        = (if c = '"' then n + 1 else n) + (line.take i).count '"' := by
      rw [List.take_succ_cons, List.count_cons]
      simp only [beq_iff_eq]
      split <;> omega
    simp only [Function.comp_apply, List.getElem?_cons_succ, hquotes]
  · simp

/-- Of the quotes in front of a line, only the parity counts. -/
theorem separators_add_two (n : Nat) (line : List Char) :
  separators sep (n + 2) line = separators sep n line
  := by
  apply List.countP_congr
  intro i _
  have hmod : (n + 2 + (line.take i).count '"') % 2 = (n + (line.take i).count '"') % 2 := by
    omega
  rw [hmod]

/-- Behind a quote that opens or closes, the separators are counted the other way. -/
theorem separators_quote (hsep : sep ≠ '"') (n : Nat) (line : List Char) :
  separators sep n ('"' :: line) = separators sep (n + 1) line
  := by
  rw [separators_cons, if_pos rfl, if_neg fun h => hsep h.1.symm, Nat.add_zero]

/-- A character that is no quote counts if it is a separator with an even number of quotes in front
of it. -/
theorem separators_cons_of_ne {c : Char} (hc : c ≠ '"') (n : Nat) (line : List Char) :
  separators sep n (c :: line) = separators sep n line + if c = sep ∧ n % 2 = 0 then 1 else 0
  := by
  rw [separators_cons, if_neg hc]

/-- The fields of a line are one more than its separators that are not in quotes. -/
theorem length_of_fieldsFrom (hsep : sep ≠ '"') {quoted : Bool} {read line : List Char}
    {fields : List (List Char)} (h : fieldsFrom sep quoted read line = some fields) :
  fields.length = separators sep quoted.toNat line + 1
  := by
  fun_induction fieldsFrom sep quoted read line generalizing fields with
  | case1 read =>
    obtain rfl := Option.some.inj h
    rfl
  | case2 read => cases h
  | case3 read rest ih =>
    rw [ih h, separators_quote hsep, separators_quote hsep, Bool.toNat_true]
    exact congrArg (· + 1) (separators_add_two 1 rest).symm
  | case4 read rest hnext ih =>
    rw [ih h, separators_quote hsep, Bool.toNat_true, Bool.toNat_false]
    exact congrArg (· + 1) (separators_add_two 0 rest).symm
  | case5 read c rest hnext hc ih =>
    rw [ih h, separators_cons_of_ne hc, Bool.toNat_true, if_neg fun h => absurd h.2 (by decide)]
  | case6 read rest ih =>
    rw [ih h, separators_quote hsep]
    rfl
  | case7 read rest hc ih =>
    obtain ⟨tail, htail, rfl⟩ := Option.map_eq_some_iff.mp h
    rw [List.length_cons, ih htail, separators_cons_of_ne hc, if_pos ⟨rfl, rfl⟩]
  | case8 read c rest hc hsep' ih =>
    rw [ih h, separators_cons_of_ne hc, if_neg fun h => hsep' h.1]

end Delimited

end DataGrid
