import Mathlib.Algebra.Group.Int.Defs
import Mathlib.Algebra.Group.Nat.Defs
import Mathlib.Data.List.Basic
import ParameterExpansion.Template.Number
import ParameterExpansion.Text.Decimal

/-!
# Decimal digits

Digits of every script are neither white space nor padding, and digits that stand together have a
value.  That of the digits of a decimal text is its number, and a value needs no more digits than it
was read from.
-/

namespace ParameterExpansion.Template

/-! ## Digits -/

/-- The digits of ASCII have their usual values. -/
theorem digitValue?_of_isDigit
    {c : Char}
    (digit : c.isDigit = true) :
    Character.digitValue? c = some (c.toNat - '0'.toNat) := by
  have bounds := Char.isDigit_iff_toNat.mp digit
  have inFirst : (0x0030 ≤ c.toNat && c.toNat < 0x0030 + 10) = true := by
    simp only [Bool.and_eq_true, decide_eq_true_eq]
    exact ⟨bounds.1, Nat.lt_succ_of_le bounds.2⟩
  have first : Character.digitZeros = 0x0030 :: Character.digitZeros.tail := rfl
  rw [Character.digitValue?, first, List.find?_cons, inFirst]
  rfl

theorem isDigit_of_charIsDigit
    {c : Char}
    (digit : c.isDigit = true) :
    Character.isDigit c = true := by
  rw [Character.isDigit, digitValue?_of_isDigit digit]
  rfl

/-- A digit of any script is one of the ten in a block of the table. -/
theorem exists_start_of_isDigit
    {c : Char}
    (digit : Character.isDigit c = true) :
    ∃ start ∈ Character.digitZeros, start ≤ c.toNat ∧ c.toNat < start + 10 := by
  rw [Character.isDigit, Character.digitValue?, Option.isSome_map, List.find?_isSome] at digit
  simpa using digit

theorem exists_range_of_contains
    {ranges : Character.Ranges} {c : Char}
    (held : ranges.contains c = true) :
    ∃ range ∈ ranges, range.1 ≤ c.toNat ∧ c.toNat ≤ range.2 := by
  induction ranges with
  | nil => cases held
  | cons range ranges ih =>
      rw [Character.Ranges.contains] at held
      split at held
      · rcases ih held with ⟨other, member, bounds⟩
        exact ⟨other, List.mem_cons_of_mem range member, bounds⟩
      · rename_i notBelow
        exact ⟨range, List.mem_cons_self, of_decide_eq_true held, Nat.not_lt.mp notBelow⟩

/-- No digit of any script is white space. -/
theorem isBlank_of_isDigit
    {c : Char}
    (digit : Character.isDigit c = true) :
    Character.isBlank c = false := by
  rw [Bool.eq_false_iff]
  intro blank
  have apart : ∀ start ∈ Character.digitZeros, ∀ range ∈ Character.blankRanges,
      start + 10 ≤ range.1 ∨ range.2 < start := by
    decide
  rcases exists_start_of_isDigit digit with ⟨start, isStart, above, below⟩
  rcases exists_range_of_contains blank with ⟨range, isRange, first, last⟩
  have := apart start isStart range isRange
  omega

theorem isPadding_of_isDigit
    {c : Char}
    (digit : Character.isDigit c = true) :
    isPadding c = false := by
  have notBlank : c ≠ ' ' := by
    rintro rfl
    exact absurd digit (by decide)
  have notTab : c ≠ '\t' := by
    rintro rfl
    exact absurd digit (by decide)
  simp [isPadding, notBlank, notTab]

theorem isDigit_of_mem_ofNat
    {c : Char} {number : Nat}
    (member : c ∈ Text.Decimal.ofNat number) :
    c.isDigit = true := by
  exact Nat.isDigit_of_mem_toDigits (by decide) (by decide) member

theorem valueOfDigits_ofNat (number : Nat) :
    valueOfDigits (Text.Decimal.ofNat number) = number := by
  have usual :
      valueOfDigits (Text.Decimal.ofNat number) =
        Nat.ofDigitChars 10 (Text.Decimal.ofNat number) 0 := by
    rw [valueOfDigits, Nat.ofDigitChars_eq_foldl]
    apply List.foldl_ext
    intro value c member
    rw [digitValue?_of_isDigit (isDigit_of_mem_ofNat member)]
    rfl
  rw [usual]
  exact Nat.ofDigitChars_toDigits (by decide) (by decide)

theorem digitValue?_lt
    {c : Char} {value : Nat}
    (found : Character.digitValue? c = some value) :
    value < 10 := by
  rw [Character.digitValue?, Option.map_eq_some_iff] at found
  rcases found with ⟨start, isStart, rfl⟩
  have bounds := List.find?_some isStart
  simp only [Bool.and_eq_true, decide_eq_true_eq] at bounds
  omega

/-- Digits have a value below ten to the power of their number. -/
theorem valueOfDigits_lt (digits : Text) :
    valueOfDigits digits < 10 ^ digits.length := by
  have general (start : Nat) :
      digits.foldl
          (fun value c => 10 * value + (Character.digitValue? c).getD 0) start <
        (start + 1) * 10 ^ digits.length := by
    induction digits generalizing start with
    | nil => simp
    | cons c digits ih =>
        have digitBound : (Character.digitValue? c).getD 0 < 10 := by
          cases found : Character.digitValue? c with
          | none => decide
          | some value => exact digitValue?_lt found
        rw [List.foldl_cons, List.length_cons, Nat.pow_succ']
        calc
          _ < (10 * start + (Character.digitValue? c).getD 0 + 1) * 10 ^ digits.length := ih _
          _ ≤ ((start + 1) * 10) * 10 ^ digits.length := by
            apply Nat.mul_le_mul_right
            omega
          _ = (start + 1) * (10 * 10 ^ digits.length) := Nat.mul_assoc _ _ _
  simpa [valueOfDigits] using general 0

/-! ## Readable numbers -/

theorem isReadable_iff {number : Int} :
    IsReadable number ↔ number.natAbs < 10 ^ maximumDigits := by
  rw [IsReadable, Text.Decimal.ofNat, Nat.length_toDigits_le_iff (by decide) (by decide)]

/-- The negative number of the least absolute value that has too many digits. -/
theorem not_isReadable_neg_pow :
    ¬ IsReadable (-(10 ^ maximumDigits)) := by
  have base : (10 : Int).natAbs = 10 := rfl
  rw [isReadable_iff, Int.natAbs_neg, Int.natAbs_pow, base]
  exact Nat.lt_irrefl _

end ParameterExpansion.Template
