/-!
# Text from bytes

`decode` reads bytes as UTF-8.  A byte that begins no character, and the longest beginning of a
character that is not continued, each stand for one replacement character, so every list of bytes
is a text.
-/

namespace DataGrid.Text.Utf8

/-- The beginning of a character: the bits read so far, how many bytes are missing, and the bounds
of the next byte. -/
structure Pending where
  value : Nat
  missing : Nat
  low : Nat
  high : Nat

/-- What stands for bytes that are no text. -/
def replacement : Char := '\uFFFD'

/-- What a first byte gives: a character, the beginning of one, or neither. -/
inductive First where
  | whole (c : Char)
  | begins (p : Pending)
  | invalid

/-- The lead bytes of UTF-8 and the bounds that each sets for the byte after it. -/
def first (b : Nat) : First :=
  if b < 0x80 then .whole (Char.ofNat b)
  else if 0xC2 ≤ b && b ≤ 0xDF then .begins ⟨b % 0x20, 1, 0x80, 0xBF⟩
  else if b = 0xE0 then .begins ⟨0, 2, 0xA0, 0xBF⟩
  else if b = 0xED then .begins ⟨0xD, 2, 0x80, 0x9F⟩
  else if 0xE1 ≤ b && b ≤ 0xEF then .begins ⟨b % 0x10, 2, 0x80, 0xBF⟩
  else if b = 0xF0 then .begins ⟨0, 3, 0x90, 0xBF⟩
  else if 0xF1 ≤ b && b ≤ 0xF3 then .begins ⟨b % 8, 3, 0x80, 0xBF⟩
  else if b = 0xF4 then .begins ⟨4, 3, 0x80, 0x8F⟩
  else .invalid

/-- The text read so far, the latest character first, and the character that has been begun. -/
structure Reading where
  text : List Char
  pending : Option Pending

namespace Reading

/-- Read a byte where a character may begin. -/
def begin (text : List Char) (b : Nat) : Reading :=
  match first b with
  | .whole c => ⟨c :: text, none⟩
  | .begins p => ⟨text, some p⟩
  | .invalid => ⟨replacement :: text, none⟩

/-- Read a byte. -/
def push (r : Reading) (byte : UInt8) : Reading :=
  let b := byte.toNat
  match r.pending with
  | none => begin r.text b
  | some p =>
    if p.low ≤ b && b ≤ p.high then
      let value := p.value * 0x40 + b % 0x40
      if p.missing ≤ 1 then ⟨Char.ofNat value :: r.text, none⟩
      else ⟨r.text, some ⟨value, p.missing - 1, 0x80, 0xBF⟩⟩
    else begin (replacement :: r.text) b

/-- The text when no byte is left. -/
def finish (r : Reading) : List Char :=
  match r.pending with
  | none => r.text.reverse
  | some _ => (replacement :: r.text).reverse

end Reading

/-- The text of a list of bytes. -/
def decode (bytes : List UInt8) : List Char := (bytes.foldl Reading.push ⟨[], none⟩).finish

end DataGrid.Text.Utf8
