import Mathlib
import DataGrid.Decimal.Text

/-!
# Decimals with a fixed number of places

A decimal with a fixed number of places is written with digits, at least one, and perhaps a point
and further digits (`IsFixedPoint`).  Every finite number has such a form, and of its absolute value
it has no sign (`exists_fixed_abs`).
-/

namespace DataGrid.Decimal

/-- Digits, at least one, and behind them nothing, or a point and further digits. -/
structure IsFixedPoint (whole rest : List Char) : Prop where
  whole_ne : whole ≠ []
  isDigit_whole : ∀ c ∈ whole, c.isDigit = true
  rest_eq : rest = [] ∨ ∃ places, rest = '.' :: places ∧ ∀ c ∈ places, c.isDigit = true

/-! ### The text -/

theorem isDigit_of_mem_padded {n k : Nat} {c : Char} (hc : c ∈ zeros k ++ digitsOf n) :
  c.isDigit = true
  := by
  obtain hc | hc := List.mem_append.mp hc
  · rw [List.eq_of_mem_replicate hc]
    rfl
  · exact Nat.isDigit_of_mem_toDigits (by decide) (by decide) hc

theorem exists_pointed (n places : Nat) :
  ∃ whole rest, pointed n places = whole ++ rest ∧ IsFixedPoint whole rest
  := by
  let padded := zeros (places + 1 - (digitsOf n).length) ++ digitsOf n
  have hlength : places + 1 ≤ padded.length := by
    simp only [padded, zeros, List.length_append, List.length_replicate]
    omega
  have hwhole : padded.take (padded.length - places) ≠ [] := by
    apply List.ne_nil_of_length_pos
    rw [List.length_take]
    omega
  have hdigits : ∀ c ∈ padded.take (padded.length - places), c.isDigit = true :=
    fun c hc => isDigit_of_mem_padded (List.mem_of_mem_take hc)
  by_cases hplaces : places = 0
  · refine ⟨padded.take (padded.length - places), [], ?_, hwhole, hdigits, Or.inl rfl⟩
    rw [List.append_nil]
    exact if_pos hplaces
  · refine ⟨padded.take (padded.length - places), '.' :: padded.drop (padded.length - places),
      if_neg hplaces, hwhole, hdigits, Or.inr ⟨_, rfl, ?_⟩⟩
    intro c hc
    exact isDigit_of_mem_padded (List.mem_of_mem_drop hc)

/-! ### Absolute values -/

open Float.Model (UnpackedFloat Format)
open Float.Model.UnpackedFloat (packComponents pack unpack unpackExponent)

theorem toNat_packComponents (sign : UnpackedFloat.Sign) (exponent : BitVec 11)
    (mantissa : BitVec 52) :
  (packComponents Format.binary64 sign exponent mantissa).toNat
    = (sign.toBitVec.toNat * 2 ^ 11 + exponent.toNat) * 2 ^ 52 + mantissa.toNat
  := by
  rw [packComponents, BitVec.toNat_append, BitVec.toNat_append, ← Nat.shiftLeft_add_eq_or_of_lt,
    ← Nat.shiftLeft_add_eq_or_of_lt, Nat.shiftLeft_eq, Nat.shiftLeft_eq]
  · exact exponent.isLt
  · exact mantissa.isLt

/-- Bits without a sign, and with an exponent field that is not full, are those of a finite number
that is not negative. -/
theorem exists_ofBits_packComponents {exponent : BitVec 11} (mantissa : BitVec 52)
    (hexponent : exponent.toNat ≠ 2047) :
  ∃ b, Parts.ofBits 52 11 (packComponents Format.binary64 .positive exponent mantissa).toNat
    = ⟨false, .finite b⟩
  := by
  have hbits := toNat_packComponents .positive exponent mantissa
  have hsign : (UnpackedFloat.Sign.positive.toBitVec).toNat = 0 := rfl
  have he := exponent.isLt
  have hm := mantissa.isLt
  rw [hsign] at hbits
  generalize (packComponents Format.binary64 .positive exponent mantissa).toNat = bits at hbits
  have hfield : bits / Nat.pow 2 52 % Nat.pow 2 11 = exponent.toNat := by
    simp only [Nat.pow_eq]
    omega
  have hnegative : bits / (Nat.pow 2 52 * Nat.pow 2 11) % 2 = 0 := by
    simp only [Nat.pow_eq]
    omega
  have hmax : exponent.toNat ≠ Nat.pow 2 11 - 1 := hexponent
  simp only [Parts.ofBits, hfield, hnegative, if_neg hmax]
  split
  · exact ⟨_, rfl⟩
  · exact ⟨_, rfl⟩

/-- A number whose exponent field is not full is packed without becoming infinite. -/
theorem exists_pack_finite {m : Nat} {e : Int} (hm : 0 < m) (field : Nat) (hfield : field < 2047)
    (he : e + 1075 = field) :
  ∃ exponent mantissa, pack Format.binary64 (.finite .positive m e hm)
      = packComponents Format.binary64 .positive exponent mantissa
    ∧ exponent.toNat ≠ 2047
  := by
  have hbiased :
      (e + Format.binary64.exponentBias + Format.binary64.mantissaBitsWithoutImplicit).toNat
        = field := by
    change (e + ((1023 : Nat) : Int) + ((52 : Nat) : Int)).toNat = field
    omega
  have hroom : ¬ 2 ^ 11 ≤ field + 1 := by omega
  rw [pack]
  dsimp only
  rw [hbiased, if_neg hroom]
  split
  · refine ⟨_, _, rfl, ?_⟩
    rw [BitVec.toNat_ofNat]
    omega
  · exact ⟨_, _, rfl, by decide⟩

/-- The absolute value of a finite double is packed again without becoming infinite. -/
theorem exists_pack_abs {bits : BitVec 64} (h : (unpack Format.binary64 bits).isFinite = true) :
  ∃ exponent mantissa, pack Format.binary64 (unpack Format.binary64 bits).abs
      = packComponents Format.binary64 .positive exponent mantissa
    ∧ exponent.toNat ≠ 2047
  := by
  have hbias : Format.binary64.exponentBias = 1023 := rfl
  rw [unpack] at h ⊢
  dsimp only at h ⊢
  split at h
  · split at h <;> cases h
  next hmax =>
    have hexponent : (@unpackExponent Format.binary64 bits).toNat < 2047 := by
      apply Nat.lt_of_le_of_ne (Nat.le_of_lt_succ (BitVec.isLt _))
      intro heq
      apply hmax
      apply BitVec.eq_of_toNat_eq
      rw [heq]
      rfl
    rw [if_neg hmax]
    split
    next hzero =>
      -- zero, or a number smaller than any with a full mantissa
      split
      · exact ⟨_, _, rfl, by decide⟩
      · apply exists_pack_finite _ 1 (by decide)
        rw [hzero, hbias]
        rfl
    · apply exists_pack_finite _ _ hexponent
      rw [hbias]
      omega

theorem exists_ofFloat_abs {x : Float} (hx : x.isFinite = true) :
  ∃ b, Parts.ofFloat x.abs = ⟨false, .finite b⟩
  := by
  obtain ⟨exponent, mantissa, hpack, hexponent⟩ := exists_pack_abs hx
  obtain ⟨b, hb⟩ := exists_ofBits_packComponents mantissa hexponent
  refine ⟨b, ?_⟩
  rw [← hb, ← hpack]
  rfl

/-- The absolute value of a finite number is written without a sign. -/
theorem exists_fixed_abs {x : Float} (hx : x.isFinite = true) (places : Nat) :
  ∃ whole rest, (fixed places (Parts.ofFloat x.abs)).toList = whole ++ rest
    ∧ IsFixedPoint whole rest
  := by
  obtain ⟨b, hb⟩ := exists_ofFloat_abs hx
  have htext : fixed places (Parts.ofFloat x.abs) = String.ofList (b.fixed places) := by
    rw [fixed, Parts.text, hb]
    rfl
  rw [htext, String.toList_ofList]
  apply exists_pointed

end DataGrid.Decimal
