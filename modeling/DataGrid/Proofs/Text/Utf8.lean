import Mathlib.Tactic.IntervalCases
import DataGrid.Text.Utf8

/-!
# Reading what was written as UTF-8

The bytes of a text are read as that text again (`decode_encode`).  A character of several bytes is
begun by its lead byte (`first_two`, `first_three`, `first_four`), and every further byte adds six bits
(`Reading.push_next`, `Reading.push_last`).
-/

namespace DataGrid.Text.Utf8

/-- The bytes of a text. -/
def encode (text : List Char) : List UInt8 := text.flatMap String.utf8EncodeChar

/-! ### Lead bytes -/

theorem first_two {k : Nat} (hlow : 2 ≤ k) (hhigh : k < 0x20) :
  first (k + 0xC0) = .begins ⟨k, 1, 0x80, 0xBF⟩
  := by
  interval_cases k <;> rfl

/-- The bounds after a lead byte of three leave out what takes two bytes and the surrogates. -/
theorem first_three {k : Nat} (h : k < 0x10) :
  first (k + 0xE0)
    = .begins ⟨k, 2, if k = 0 then 0xA0 else 0x80, if k = 0xD then 0x9F else 0xBF⟩
  := by
  interval_cases k <;> rfl

/-- The bounds after a lead byte of four leave out what takes three bytes and what is no
character. -/
theorem first_four {k : Nat} (h : k ≤ 4) :
  first (k + 0xF0)
    = .begins ⟨k, 3, if k = 0 then 0x90 else 0x80, if k = 4 then 0x8F else 0xBF⟩
  := by
  interval_cases k <;> rfl

/-! ### Bytes -/

namespace Reading

theorem toNat_ofNat_of_lt {b : Nat} (h : b < 0x100) :
  (UInt8.ofNat b).toNat = b
  := by
  rw [UInt8.toNat_ofNat']
  apply Nat.mod_eq_of_lt h

theorem push_whole (text : List Char) {b : Nat} (h : b < 0x80) :
  push ⟨text, none⟩ (UInt8.ofNat b) = ⟨Char.ofNat b :: text, none⟩
  := by
  rw [push, toNat_ofNat_of_lt (by omega)]
  simp only [begin, first, h, if_true]

theorem push_lead (text : List Char) {b : Nat} {p : Pending} (hb : b < 0x100)
    (h : first b = .begins p) :
  push ⟨text, none⟩ (UInt8.ofNat b) = ⟨text, some p⟩
  := by
  rw [push, toNat_ofNat_of_lt hb]
  simp only [begin, h]

/-- A byte within its bounds adds six bits. -/
theorem push_next (text : List Char) {value n low high k : Nat} (hk : k < 0x40)
    (hlow : low ≤ k + 0x80) (hhigh : k + 0x80 ≤ high) :
  push ⟨text, some ⟨value, n + 2, low, high⟩⟩ (UInt8.ofNat (k + 0x80))
    = ⟨text, some ⟨value * 0x40 + k, n + 1, 0x80, 0xBF⟩⟩
  := by
  have hmod : (k + 0x80) % 0x40 = k := by omega
  rw [push, toNat_ofNat_of_lt (by omega)]
  simp [hlow, hhigh, hmod]

/-- The last byte that is missing ends the character. -/
theorem push_last (text : List Char) {value low high k : Nat} (hk : k < 0x40)
    (hlow : low ≤ k + 0x80) (hhigh : k + 0x80 ≤ high) :
  push ⟨text, some ⟨value, 1, low, high⟩⟩ (UInt8.ofNat (k + 0x80))
    = ⟨Char.ofNat (value * 0x40 + k) :: text, none⟩
  := by
  have hmod : (k + 0x80) % 0x40 = k := by omega
  rw [push, toNat_ofNat_of_lt (by omega)]
  simp [hlow, hhigh, hmod]

/-- The bytes of a character are read as that character. -/
theorem foldl_push_utf8EncodeChar (text : List Char) (c : Char) :
  (String.utf8EncodeChar c).foldl push ⟨text, none⟩ = ⟨c :: text, none⟩
  := by
  have hvalid : c.val.toNat < 0xD800 ∨ 0xDFFF < c.val.toNat ∧ c.val.toNat < 0x110000 := c.valid
  have hc {n : Nat} (hn : n = c.val.toNat) : Char.ofNat n = c := by
    rw [hn]
    apply Char.ofNat_toNat c
  unfold String.utf8EncodeChar
  generalize c.val.toNat = v at hvalid hc
  dsimp only
  split
  · rw [List.foldl_cons, push_whole text (by omega), hc rfl]
    rfl
  split
  · rw [List.foldl_cons, push_lead text (by omega) (first_two (by omega) (by omega))]
    rw [List.foldl_cons, push_last text (by omega) (by omega) (by omega), hc (by omega)]
    rfl
  split
  · rw [List.foldl_cons, push_lead text (by omega) (first_three (by omega))]
    rw [List.foldl_cons, push_next text (by omega) (by split <;> omega) (by split <;> omega)]
    rw [List.foldl_cons, push_last text (by omega) (by omega) (by omega), hc (by omega)]
    rfl
  · rw [List.foldl_cons, push_lead text (by omega) (first_four (by omega))]
    rw [List.foldl_cons, push_next text (by omega) (by split <;> omega) (by split <;> omega)]
    rw [List.foldl_cons, push_next text (by omega) (by omega) (by omega)]
    rw [List.foldl_cons, push_last text (by omega) (by omega) (by omega), hc (by omega)]
    rfl

end Reading

/-- The bytes of a text are read as that text. -/
theorem decode_encode (text : List Char) :
  decode (encode text) = text
  := by
  have hread : ∀ (rest read : List Char),
      (encode rest).foldl Reading.push ⟨read, none⟩ = ⟨rest.reverse ++ read, none⟩ := by
    intro rest
    induction rest with
    | nil => intro read; rfl
    | cons c rest ih =>
      intro read
      rw [encode, List.flatMap_cons, List.foldl_append, Reading.foldl_push_utf8EncodeChar]
      change (encode rest).foldl Reading.push _ = _
      rw [ih, List.reverse_cons, List.append_assoc]
      rfl
  rw [decode, hread, List.append_nil, Reading.finish, List.reverse_reverse]

end DataGrid.Text.Utf8
