import DataGrid.Formatter
import DataGrid.Proofs.Decimal.Fixed

/-!
# Groups of three digits

The whole part of a number is cut into groups of three digits from the right, with a comma between
any two of them.  A comma stands exactly where a positive multiple of three digits is left
(`Grouped.commas_eq_append_iff`), so the commas can be taken out again and every group but the
first has three digits (`Grouped.IsGrouping`).  A finite number is written as its decimal with such
commas, and with a minus if it is negative and not all of its digits are zero
(`Formatter.groupedNumber_of_isFinite`).
-/

namespace DataGrid

namespace Grouped

variable {digits front back before after : List Char}

/-! ### Where the commas stand -/

/-- The comma in front of the rest of the digits, if one is due there. -/
def due (rest : List Char) : List Char :=
  if rest.length % 3 = 0 ∧ rest ≠ [] then [','] else []

theorem commas_cons (c : Char) (rest : List Char) :
  commas (c :: rest) = c :: (due rest ++ commas rest)
  := by
  have hdue : (rest.length % 3 = 0 && !rest.isEmpty) = true
      ↔ rest.length % 3 = 0 ∧ rest ≠ [] := by
    rw [Bool.and_eq_true, decide_eq_true_iff, Bool.not_eq_true', List.isEmpty_eq_false_iff]
  rw [commas, due]
  simp only [hdue]
  split <;> rfl

/-- Whether a comma is due does not depend on further groups. -/
theorem due_append (hfront : front ≠ []) (hback : back.length % 3 = 0) :
  due (front ++ back) = due front
  := by
  have hlength : (front ++ back).length % 3 = 0 ↔ front.length % 3 = 0 := by
    rw [List.length_append]
    omega
  rw [due, due]
  simp only [hlength, ne_eq, List.append_eq_nil_iff, hfront, false_and]

/-- Without the commas the digits are left. -/
theorem filter_commas (h : ',' ∉ digits) :
  (commas digits).filter (· ≠ ',') = digits
  := by
  induction digits with
  | nil => rfl
  | cons c rest ih =>
    obtain ⟨hc, hrest⟩ := not_or.mp (mt List.mem_cons.mpr h)
    have hdue : (due rest).filter (· ≠ ',') = [] := by
      rw [due]
      split <;> rfl
    rw [commas_cons, List.filter_cons_of_pos (by simpa using Ne.symm hc), List.filter_append, hdue,
      List.nil_append, ih hrest]

/-- A comma stands in front of a positive multiple of three digits. -/
theorem commas_append (hfront : front ≠ []) (hback : back ≠ []) (hlength : back.length % 3 = 0) :
  commas (front ++ back) = commas front ++ ',' :: commas back
  := by
  induction front with
  | nil => exact absurd rfl hfront
  | cons c rest ih =>
    rw [List.cons_append, commas_cons, commas_cons]
    cases rest with
    | nil =>
      rw [List.nil_append, due, if_pos ⟨hlength, hback⟩]
      rfl
    | cons d rest =>
      rw [due_append (List.cons_ne_nil _ _) hlength, ih (List.cons_ne_nil _ _), ← List.append_assoc]
      rfl

/-- In front of a comma and behind it stand the two parts of the digits, and the second is a
positive multiple of three digits long. -/
theorem commas_eq_append_iff (hdigits : ',' ∉ digits) :
  commas digits = before ++ ',' :: after
    ↔ ∃ front back, digits = front ++ back ∧ front ≠ [] ∧ back ≠ [] ∧ back.length % 3 = 0
      ∧ before = commas front ∧ after = commas back
  := by
  constructor
  · intro h
    induction digits generalizing before with
    | nil => cases before <;> cases h
    | cons c rest ih =>
      obtain ⟨hc, hrest⟩ := not_or.mp (mt List.mem_cons.mpr hdigits)
      rw [commas_cons] at h
      cases before with
      | nil => exact absurd (List.cons.inj h).1.symm hc
      | cons b before =>
        obtain ⟨rfl, htail⟩ := List.cons.inj h
        -- a comma among the rest of the digits parts these
        have hlater : ∀ later, before = due rest ++ later → commas rest = later ++ ',' :: after →
            ∃ front back, c :: rest = front ++ back ∧ front ≠ [] ∧ back ≠ []
              ∧ back.length % 3 = 0 ∧ c :: before = commas front ∧ after = commas back := by
          rintro later rfl hcommas
          obtain ⟨front, back, rfl, hfront, hback, hlength, rfl, rfl⟩ := ih hrest hcommas
          refine ⟨c :: front, back, rfl, List.cons_ne_nil _ _, hback, hlength, ?_, rfl⟩
          rw [commas_cons, due_append hfront hlength]
        by_cases hdue : rest.length % 3 = 0 ∧ rest ≠ []
        · have hcomma : due rest = [','] := if_pos hdue
          rw [hcomma] at htail hlater
          cases before with
          | nil =>
            obtain ⟨-, rfl⟩ := List.cons.inj htail
            exact ⟨[c], rest, rfl, List.cons_ne_nil _ _, hdue.2, hdue.1, rfl, rfl⟩
          | cons b before =>
            obtain ⟨rfl, hcommas⟩ := List.cons.inj htail
            exact hlater before rfl hcommas
        · have hnone : due rest = [] := if_neg hdue
          rw [hnone] at htail hlater
          exact hlater before rfl htail
  · rintro ⟨front, back, rfl, hfront, hback, hlength, rfl, rfl⟩
    apply commas_append hfront hback hlength

/-- A comma stands wherever one may. -/
theorem exists_comma {k : Nat} (hk : 0 < k) (hlt : 3 * k < digits.length) :
  ∃ front back, digits = front ++ back ∧ back.length = 3 * k
    ∧ commas digits = commas front ++ ',' :: commas back
  := by
  let front := digits.take (digits.length - 3 * k)
  let back := digits.drop (digits.length - 3 * k)
  have happend : front ++ back = digits := List.take_append_drop _ digits
  have hback : back.length = 3 * k := by
    rw [List.length_drop]
    omega
  have hfront : front.length = digits.length - 3 * k := by
    rw [List.length_take]
    omega
  refine ⟨front, back, happend.symm, hback, ?_⟩
  rw [← happend]
  apply commas_append
  · apply List.ne_nil_of_length_pos
    omega
  · apply List.ne_nil_of_length_pos
    omega
  · omega

/-- Without a comma there are three digits or fewer. -/
theorem length_le_of_not_mem_commas (h : ',' ∉ commas digits) :
  digits.length ≤ 3
  := by
  apply Nat.le_of_not_lt
  intro hlong
  obtain ⟨front, back, -, -, hcommas⟩ := exists_comma Nat.one_pos hlong
  apply h
  rw [hcommas]
  apply List.mem_append_right _ List.mem_cons_self

/-! ### Grouped digits -/

/-- The digits with commas that part them, from the right, into groups of three. -/
structure IsGrouping (digits out : List Char) : Prop where
  /-- Taking the commas out gives the digits. -/
  filter_eq : out.filter (· ≠ ',') = digits
  /-- No comma leads, and a positive multiple of three digits is left behind each one. -/
  behind : ∀ before after, out = before ++ ',' :: after →
    before ≠ [] ∧ ∃ k, 0 < k ∧ (after.filter (· ≠ ',')).length = 3 * k
  /-- Three digits stand between a comma and the next one. -/
  between : ∀ before group after, out = before ++ ',' :: (group ++ ',' :: after) → ',' ∉ group →
    group.length = 3
  /-- Wherever a comma may stand, there is one. -/
  complete : ∀ k, 0 < k → 3 * k < digits.length →
    ∃ before after, out = before ++ ',' :: after ∧ (after.filter (· ≠ ',')).length = 3 * k

theorem isGrouping_commas (hdigits : ',' ∉ digits) :
  IsGrouping digits (commas digits)
  := by
  constructor
  case filter_eq => apply filter_commas hdigits
  case behind =>
    intro before after hout
    obtain ⟨front, back, rfl, hfront, hback, hlength, rfl, rfl⟩ :=
      (commas_eq_append_iff hdigits).mp hout
    obtain ⟨hdigits, hdigits'⟩ := not_or.mp (mt List.mem_append.mpr hdigits)
    constructor
    · intro hnil
      have hfilter := filter_commas hdigits
      rw [hnil] at hfilter
      apply hfront hfilter.symm
    · have hpos := List.length_pos_iff.mpr hback
      refine ⟨back.length / 3, by omega, ?_⟩
      rw [filter_commas hdigits']
      omega
  case between =>
    intro before group after hout hgroup
    obtain ⟨front, back, rfl, -, -, hlength, rfl, hafter⟩ := (commas_eq_append_iff hdigits).mp hout
    obtain ⟨-, hdigits⟩ := not_or.mp (mt List.mem_append.mpr hdigits)
    obtain ⟨first, others, rfl, hfirst, -, hothers, rfl, -⟩ :=
      (commas_eq_append_iff hdigits).mp hafter.symm
    obtain ⟨hdigits, -⟩ := not_or.mp (mt List.mem_append.mpr hdigits)
    have hshort := length_le_of_not_mem_commas hgroup
    have hpos := List.length_pos_iff.mpr hfirst
    have hsame : first = commas first := by
      apply (filter_commas hdigits).symm.trans
      rw [List.filter_eq_self]
      intro c hc
      apply decide_eq_true
      rintro rfl
      apply hgroup hc
    rw [List.length_append] at hlength
    rw [← hsame]
    omega
  case complete =>
    intro k hk hlt
    obtain ⟨front, back, rfl, hback, hcommas⟩ := exists_comma hk hlt
    obtain ⟨-, hdigits⟩ := not_or.mp (mt List.mem_append.mpr hdigits)
    refine ⟨commas front, commas back, hcommas, ?_⟩
    rw [filter_commas hdigits, hback]

example : commas "1234567".toList = "1,234,567".toList := by decide

/-! ### Fixed-point text -/

variable {whole rest : List Char}

/-- Only the digits in front of the point are grouped. -/
theorem group_append (h : Decimal.IsFixedPoint whole rest) :
  group (whole ++ rest) = commas whole ++ rest
  := by
  have hwhole : ∀ c ∈ whole, decide (c ≠ '.') = true := by
    intro c hc
    apply decide_eq_true
    rintro rfl
    apply absurd (h.isDigit_whole _ hc) (by decide)
  rw [group, List.takeWhile_append_of_pos hwhole, List.dropWhile_append_of_pos hwhole]
  obtain rfl | ⟨places, rfl, -⟩ := h.rest_eq
  · simp only [List.takeWhile_nil, List.dropWhile_nil, List.append_nil]
  · rw [List.takeWhile_cons_of_neg (by decide), List.dropWhile_cons_of_neg (by decide),
      List.append_nil]

theorem isZero_eq_false_iff (h : Decimal.IsFixedPoint whole rest) :
  isZero (whole ++ rest) = false ↔ ∃ c ∈ whole ++ rest, c.isDigit = true ∧ c ≠ '0'
  := by
  have hkind : ∀ c ∈ whole ++ rest, c.isDigit = true ∨ c = '.' := by
    intro c hc
    obtain hc | hc := List.mem_append.mp hc
    · exact Or.inl (h.isDigit_whole c hc)
    · obtain rfl | ⟨places, rfl, hplaces⟩ := h.rest_eq
      · cases hc
      · obtain rfl | hc := List.mem_cons.mp hc
        · exact Or.inr rfl
        · exact Or.inl (hplaces c hc)
  rw [isZero, List.all_eq_false]
  apply exists_congr
  intro c
  apply and_congr_right
  intro hc
  rw [Bool.or_eq_true, Bool.or_eq_true, decide_eq_true_iff, decide_eq_true_iff, decide_eq_true_iff]
  constructor
  · intro hother
    refine ⟨(hkind c hc).resolve_right ?_, ?_⟩
    · rintro rfl
      exact hother (Or.inl (Or.inr rfl))
    · rintro rfl
      exact hother (Or.inl (Or.inl rfl))
  · rintro ⟨hdigit, hzero⟩ ((rfl | rfl) | rfl)
    · exact hzero rfl
    · cases hdigit
    · cases hdigit

theorem signed_append (h : Decimal.IsFixedPoint whole rest) (negative : Bool) :
  signed negative (whole ++ rest)
    = (if negative = true ∧ ∃ c ∈ whole ++ rest, c.isDigit = true ∧ c ≠ '0' then ['-'] else [])
      ++ commas whole ++ rest
  := by
  have hsign : (negative && !isZero (whole ++ rest)) = true
      ↔ negative = true ∧ ∃ c ∈ whole ++ rest, c.isDigit = true ∧ c ≠ '0' := by
    rw [Bool.and_eq_true, Bool.not_eq_true', isZero_eq_false_iff h]
  rw [signed, group_append h]
  simp only [hsign]
  split <;> rfl

end Grouped

namespace Formatter

/-- A finite number is written as its absolute value with commas between the groups of the whole
part, and with a minus in front exactly if it is negative and a digit is not zero. -/
theorem groupedNumber_of_isFinite {x : Float} (hx : x.isFinite = true) (places : Nat) :
  ∃ whole rest grouped, (Decimal.fixed places (.ofFloat x.abs)).toList = whole ++ rest
    ∧ Decimal.IsFixedPoint whole rest ∧ Grouped.IsGrouping whole grouped
    ∧ (groupedNumber x places).toList
      = (if x < 0 ∧ ∃ c ∈ whole ++ rest, c.isDigit = true ∧ c ≠ '0' then ['-'] else [])
        ++ grouped ++ rest
  := by
  obtain ⟨whole, rest, htext, hfixed⟩ := Decimal.exists_fixed_abs hx places
  have hwhole : ',' ∉ whole := fun hc => absurd (hfixed.isDigit_whole _ hc) (by decide)
  refine ⟨whole, rest, Grouped.commas whole, htext, hfixed, Grouped.isGrouping_commas hwhole, ?_⟩
  rw [groupedNumber, htext, String.toList_ofList, Grouped.signed_append hfixed]
  simp only [decide_eq_true_iff]

theorem groupedNumber_of_isFinite_millions :
  (-1234567.891 : Float).isFinite = true ∧ groupedNumber (-1234567.891) 2 = "-1,234,567.89"
    ∧ ∃ whole rest grouped,
      (Decimal.fixed 2 (.ofFloat (-1234567.891 : Float).abs)).toList = whole ++ rest
      ∧ Decimal.IsFixedPoint whole rest ∧ Grouped.IsGrouping whole grouped
      ∧ (groupedNumber (-1234567.891) 2).toList
        = (if (-1234567.891 : Float) < 0 ∧ ∃ c ∈ whole ++ rest, c.isDigit = true ∧ c ≠ '0'
            then ['-'] else []) ++ grouped ++ rest
  := by
  have hfinite : (-1234567.891 : Float).isFinite = true := by decide +kernel
  exact ⟨hfinite, by decide +kernel, groupedNumber_of_isFinite hfinite 2⟩

end Formatter

end DataGrid
