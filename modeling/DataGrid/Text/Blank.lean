/-!
# Blank characters

The characters that Unicode calls white space, and trimming a text of them at both ends.
-/

namespace DataGrid.Text

/-- The white space of Unicode, as ranges of code points with both ends. -/
def blankRanges : List (Nat × Nat) :=
  [(0x09, 0x0D), (0x20, 0x20), (0x85, 0x85), (0xA0, 0xA0), (0x1680, 0x1680), (0x2000, 0x200A),
   (0x2028, 0x2029), (0x202F, 0x202F), (0x205F, 0x205F), (0x3000, 0x3000)]

/-- Whether a character is white space. -/
def isBlank (c : Char) : Bool := blankRanges.any fun r => r.1 ≤ c.toNat && c.toNat ≤ r.2

/-- A text without the blank characters at its two ends. -/
def trim (cs : List Char) : List Char :=
  (((cs.dropWhile isBlank).reverse).dropWhile isBlank).reverse

/-- The blank characters of ASCII are white space. -/
theorem isBlank_of_isWhitespace {c : Char} (h : c.isWhitespace = true) :
  isBlank c = true
  := by
  simp only [Char.isWhitespace, Bool.or_eq_true, decide_eq_true_eq] at h
  rcases h with ((h | h) | h) | h <;> subst h <;> decide

end DataGrid.Text
