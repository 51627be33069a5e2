import Mathlib.Data.Nat.Digits.Defs
import ParameterExpansion.Proofs.Template.Digits
import ParameterExpansion.Proofs.Text.Cutting

/-!
# The grammar of a number field

A field stands for a number if it is white space alone, and then for zero, or if it is a numeral: a
sign or none and decimal digits of any script, with padding around them and at most one line feed at
the end.  Reading accepts these fields and no others, and a numeral with more digits than are read
fails in a way of its own, whatever its value is.  So the decimal text of a number is read back if it
has no more digits, and a number that was read has no more.
-/

namespace ParameterExpansion.Template

/-! ## Numerals -/

/-- What stands in front of the digits of a number. -/
inductive NumberSign where
  | absent
  | plus
  | minus
deriving DecidableEq

def NumberSign.written : NumberSign → Text
  | .absent => []
  | .plus => ['+']
  | .minus => ['-']

/-- The number with a sign and an absolute value. -/
def NumberSign.apply : NumberSign → Nat → Int
  | .minus, magnitude => -magnitude
  | _, magnitude => magnitude

/-- The sign that the decimal text of a number carries. -/
def NumberSign.ofInt : Int → NumberSign
  | .ofNat _ => .absent
  | .negSucc _ => .minus

theorem NumberSign.written_ofInt_append (number : Int) :
    (ofInt number).written ++ Text.Decimal.ofNat number.natAbs = Text.Decimal.ofInt number := by
  cases number <;> rfl

theorem NumberSign.apply_ofInt (number : Int) :
    (ofInt number).apply number.natAbs = number := by
  cases number <;> rfl

/-- A number as a field may hold it. -/
structure Numeral where
  before : Text
  sign : NumberSign
  digits : Text
  after : Text
  endsLine : Bool
  padsBefore : ∀ c ∈ before, isPadding c = true
  areDigits : ∀ c ∈ digits, Character.isDigit c = true
  nonempty : digits ≠ []
  padsAfter : ∀ c ∈ after, isPadding c = true

namespace Numeral

/-- The end of the field, behind the padding. -/
def closing (numeral : Numeral) : Text :=
  if numeral.endsLine then ['\n'] else []

def written (numeral : Numeral) : Text :=
  numeral.before ++ (numeral.sign.written ++ (numeral.digits ++ (numeral.after ++ numeral.closing)))

/-- The value of the digits by their places, the last one counting once. -/
def magnitude (numeral : Numeral) : Nat :=
  Nat.ofDigits 10 (numeral.digits.reverse.map fun c => (Character.digitValue? c).getD 0)

def value (numeral : Numeral) : Int :=
  numeral.sign.apply numeral.magnitude

end Numeral

theorem valueOfDigits_eq_ofDigits (digits : Text) :
    valueOfDigits digits =
      Nat.ofDigits 10 (digits.reverse.map fun c => (Character.digitValue? c).getD 0) := by
  rw [Nat.ofDigits_eq_foldr, List.foldr_map, List.foldr_reverse, valueOfDigits]
  apply List.foldl_ext
  intro value c _
  exact Nat.add_comm _ _

/-! ## Reading what is written -/

section Reading

variable (numeral : Numeral)

theorem Numeral.exists_digits_eq_cons :
    ∃ first others, numeral.digits = first :: others ∧ Character.isDigit first = true := by
  rcases List.exists_cons_of_ne_nil numeral.nonempty with ⟨first, others, same⟩
  refine ⟨first, others, same, numeral.areDigits first ?_⟩
  rw [same]
  exact List.mem_cons_self

/-- The closing does not begin with padding. -/
theorem Numeral.isPadding_head_closing :
    ∀ c ∈ numeral.closing.head?, isPadding c = false := by
  intro c first
  rw [closing] at first
  split at first
  · obtain rfl : '\n' = c := by simpa using first
    decide
  · simp at first

/-- No digit follows the digits. -/
theorem Numeral.isDigit_head_after :
    ∀ c ∈ (numeral.after ++ numeral.closing).head?, Character.isDigit c = false := by
  intro c first
  have member := List.mem_of_mem_head? first
  rw [Bool.eq_false_iff]
  intro digit
  rcases List.mem_append.mp member with pads | ends
  · have notPadding := isPadding_of_isDigit digit
    rw [numeral.padsAfter c pads] at notPadding
    cases notPadding
  · rw [closing] at ends
    split at ends
    · rcases List.mem_singleton.mp ends with rfl
      exact absurd digit (by decide)
    · simp at ends

/-- A sign is taken off, and a digit is not taken for one. -/
theorem takeSign_written_append
    {first : Char}
    (digit : Character.isDigit first = true)
    (sign : NumberSign)
    (others : Text) :
    takeSign (sign.written ++ first :: others) = (decide (sign = .minus), first :: others) := by
  cases sign with
  | plus => rfl
  | minus => rfl
  | absent =>
      show takeSign (first :: others) = _
      unfold takeSign
      split
      · rename_i rest same
        rw [(List.cons.inj same).1] at digit
        exact absurd digit (by decide)
      · rename_i rest same
        rw [(List.cons.inj same).1] at digit
        exact absurd digit (by decide)
      · rfl

/-- Neither a sign nor a digit is padding. -/
theorem isPadding_head_written_append
    {first : Char}
    (digit : Character.isDigit first = true)
    (sign : NumberSign)
    (others : Text) :
    ∀ c ∈ (sign.written ++ first :: others).head?, isPadding c = false := by
  intro c isHead
  cases sign with
  | plus =>
      obtain rfl : '+' = c := by simpa [NumberSign.written] using isHead
      decide
  | minus =>
      obtain rfl : '-' = c := by simpa [NumberSign.written] using isHead
      decide
  | absent =>
      obtain rfl : first = c := by simpa [NumberSign.written] using isHead
      exact isPadding_of_isDigit digit

/-- The sign and the digits of a numeral are found where they were written. -/
theorem Numeral.numeral?_written :
    numeral? numeral.written = some (decide (numeral.sign = .minus), numeral.digits) := by
  rcases numeral.exists_digits_eq_cons with ⟨first, others, same, digit⟩
  have unpadded :
      numeral.written.dropWhile isPadding =
        numeral.sign.written ++ (numeral.digits ++ (numeral.after ++ numeral.closing)) := by
    apply Text.dropWhile_append_of_head? numeral.padsBefore
    rw [same]
    exact isPadding_head_written_append digit _ _
  have unsigned :
      takeSign (numeral.sign.written ++ (numeral.digits ++ (numeral.after ++ numeral.closing))) =
        (decide (numeral.sign = .minus), numeral.digits ++ (numeral.after ++ numeral.closing)) := by
    rw [same]
    exact takeSign_written_append digit _ _
  have taken := Text.takeWhile_append_of_head? numeral.areDigits numeral.isDigit_head_after
  have dropped := Text.dropWhile_append_of_head? numeral.areDigits numeral.isDigit_head_after
  have closed := Text.dropWhile_append_of_head? numeral.padsAfter numeral.isPadding_head_closing
  have ends : numeral.closing = [] ∨ numeral.closing = ['\n'] := by
    rw [closing]
    split
    · exact Or.inr rfl
    · exact Or.inl rfl
  rw [numeral?, unpadded, unsigned]
  simp only [taken, dropped, closed]
  rw [if_pos ⟨numeral.nonempty, ends⟩]

/-- White space alone is no numeral. -/
theorem Numeral.not_all_isBlank_written :
    ¬ ∀ c ∈ numeral.written, Character.isBlank c = true := by
  intro blank
  rcases numeral.exists_digits_eq_cons with ⟨first, others, same, digit⟩
  have member : first ∈ numeral.written := by
    simp [written, same]
  have isBlank := blank first member
  rw [isBlank_of_isDigit digit] at isBlank
  cases isBlank

theorem Numeral.isInfix_digits_written :
    numeral.digits <:+: numeral.written := by
  have front : numeral.written =
      numeral.before ++ numeral.sign.written ++ numeral.digits ++
        (numeral.after ++ numeral.closing) := by
    simp [written]
  rw [front]
  exact List.infix_append _ _ _

end Reading

theorem exists_sign_of_takeSign
    {text unsigned : Text} {negative : Bool}
    (taken : takeSign text = (negative, unsigned)) :
    ∃ sign : NumberSign,
      text = sign.written ++ unsigned ∧ decide (sign = .minus) = negative := by
  unfold takeSign at taken
  split at taken
  · cases taken
    exact ⟨.minus, rfl, rfl⟩
  · cases taken
    exact ⟨.plus, rfl, rfl⟩
  · cases taken
    exact ⟨.absent, rfl, rfl⟩

/-- What is found in a field was written as a numeral. -/
theorem exists_numeral_of_numeral?
    {field digits : Text} {negative : Bool}
    (found : numeral? field = some (negative, digits)) :
    ∃ numeral : Numeral, numeral.written = field ∧
      decide (numeral.sign = .minus) = negative ∧ numeral.digits = digits := by
  rw [numeral?] at found
  rcases signed : takeSign (field.dropWhile isPadding) with ⟨minus, unsigned⟩
  rcases exists_sign_of_takeSign signed with ⟨sign, isSigned, rfl⟩
  simp only [signed] at found
  split at found
  · rename_i holds
    rcases holds with ⟨nonempty, closed⟩
    cases found
    let rest := unsigned.dropWhile Character.isDigit
    let numeral : Numeral := {
      before := field.takeWhile isPadding
      sign := sign
      digits := unsigned.takeWhile Character.isDigit
      after := rest.takeWhile isPadding
      endsLine := rest.dropWhile isPadding = ['\n']
      padsBefore := fun _ member => List.mem_takeWhile_imp member
      areDigits := fun _ member => List.mem_takeWhile_imp member
      nonempty := nonempty
      padsAfter := fun _ member => List.mem_takeWhile_imp member }
    have closing : numeral.closing = rest.dropWhile isPadding := by
      rcases closed with empty | line
      · simp [Numeral.closing, numeral, rest, empty]
      · simp [Numeral.closing, numeral, rest, line]
    refine ⟨numeral, ?_, rfl, rfl⟩
    calc
      numeral.written =
          field.takeWhile isPadding ++ (sign.written ++ (unsigned.takeWhile Character.isDigit ++
            (rest.takeWhile isPadding ++ rest.dropWhile isPadding))) := by
        rw [Numeral.written, closing]
      _ = field := by
        rw [List.takeWhile_append_dropWhile, List.takeWhile_append_dropWhile, ← isSigned,
          List.takeWhile_append_dropWhile]
  · cases found

theorem numeral?_eq_none_iff
    {field : Text} :
    numeral? field = none ↔ ∀ numeral : Numeral, numeral.written ≠ field := by
  constructor
  · rintro none numeral rfl
    rw [numeral.numeral?_written] at none
    cases none
  · intro never
    cases found : numeral? field with
    | none => rfl
    | some parts =>
        rcases exists_numeral_of_numeral? found with ⟨numeral, same, _⟩
        exact (never numeral same).elim

/-! ## Fields -/

/-- The field stands for the number. -/
inductive StandsFor : Text → Int → Prop where
  | blank {field : Text} (blank : ∀ c ∈ field, Character.isBlank c = true) : StandsFor field 0
  | numeral (numeral : Numeral) (fits : numeral.digits.length ≤ maximumDigits) :
      StandsFor numeral.written numeral.value

/--
Why a field does not stand for a number: it is a numeral with too many digits, or it is neither
white space nor a numeral, and is then named without the white space around it.
-/
inductive FailsAs (expansion : Text) : Text → Failure → Prop where
  | tooLong (numeral : Numeral) (many : maximumDigits < numeral.digits.length) :
      FailsAs expansion numeral.written (.numberTooLong numeral.digits.length)
  | invalid {field core : Text}
      (notBlank : ¬ ∀ c ∈ field, Character.isBlank c = true)
      (noNumeral : ∀ numeral : Numeral, numeral.written ≠ field)
      (trimmed : Text.IsTrimmedTo Character.isBlank field core) :
      FailsAs expansion field (.invalid expansion (.invalidInteger core))

/-- A numeral is read as its value, or it has too many digits. -/
theorem readNumber_written (numeral : Numeral) (expansion : Text) :
    readNumber expansion numeral.written =
      if maximumDigits < numeral.digits.length then .error (.numberTooLong numeral.digits.length)
      else .ok numeral.value := by
  have notBlank : ¬ numeral.written.all Character.isBlank = true := by
    rw [List.all_eq_true]
    exact numeral.not_all_isBlank_written
  have value :
      (if decide (numeral.sign = .minus) = true then -(valueOfDigits numeral.digits : Int)
        else valueOfDigits numeral.digits) = numeral.value := by
    rw [valueOfDigits_eq_ofDigits, Numeral.value, Numeral.magnitude]
    cases numeral.sign <;> rfl
  rw [readNumber, if_neg notBlank, numeral.numeral?_written, ← value]

/-- A field that is neither white space nor a numeral is named without the white space around it. -/
theorem readNumber_of_no_numeral
    {field : Text}
    (notBlank : ¬ ∀ c ∈ field, Character.isBlank c = true)
    (noNumeral : ∀ numeral : Numeral, numeral.written ≠ field)
    (expansion : Text) :
    readNumber expansion field =
      .error (.invalid expansion (.invalidInteger (field.trim Character.isBlank))) := by
  rw [← List.all_eq_true] at notBlank
  rw [readNumber, if_neg notBlank, numeral?_eq_none_iff.mpr noNumeral]

theorem readNumber_of_blank
    {field : Text}
    (blank : ∀ c ∈ field, Character.isBlank c = true)
    (expansion : Text) :
    readNumber expansion field = .ok 0 := by
  rw [readNumber, if_pos (List.all_eq_true.mpr blank)]

/-- A field is white space alone, a numeral, or neither. -/
theorem blank_or_numeral_or_neither (field : Text) :
    (∀ c ∈ field, Character.isBlank c = true) ∨
      (∃ numeral : Numeral, numeral.written = field) ∨
      (¬ ∀ c ∈ field, Character.isBlank c = true) ∧
        ∀ numeral : Numeral, numeral.written ≠ field := by
  by_cases blank : ∀ c ∈ field, Character.isBlank c = true
  · exact Or.inl blank
  · by_cases written : ∃ numeral : Numeral, numeral.written = field
    · exact Or.inr (Or.inl written)
    · exact Or.inr (Or.inr ⟨blank, not_exists.mp written⟩)

/-- A field is read as the number it stands for. -/
theorem readNumber_eq_ok_iff
    {expansion field : Text} {number : Int} :
    readNumber expansion field = .ok number ↔ StandsFor field number := by
  constructor
  · intro read
    rcases blank_or_numeral_or_neither field with blank | ⟨numeral, rfl⟩ | ⟨notBlank, noNumeral⟩
    · rw [readNumber_of_blank blank] at read
      cases read
      exact StandsFor.blank blank
    · rw [readNumber_written] at read
      split at read
      · cases read
      · rename_i fits
        cases read
        exact StandsFor.numeral numeral (Nat.not_lt.mp fits)
    · rw [readNumber_of_no_numeral notBlank noNumeral] at read
      cases read
  · intro stands
    cases stands with
    | blank blank => exact readNumber_of_blank blank expansion
    | numeral numeral fits => rw [readNumber_written, if_neg (Nat.not_lt.mpr fits)]

/-- Reading a field fails for the reason for which it stands for no number. -/
theorem readNumber_eq_error_iff
    {expansion field : Text} {failure : Failure} :
    readNumber expansion field = .error failure ↔ FailsAs expansion field failure := by
  constructor
  · intro failed
    rcases blank_or_numeral_or_neither field with blank | ⟨numeral, rfl⟩ | ⟨notBlank, noNumeral⟩
    · rw [readNumber_of_blank blank] at failed
      cases failed
    · rw [readNumber_written] at failed
      split at failed
      · rename_i many
        cases failed
        exact FailsAs.tooLong numeral many
      · cases failed
    · rw [readNumber_of_no_numeral notBlank noNumeral] at failed
      cases failed
      exact FailsAs.invalid notBlank noNumeral (Text.isTrimmedTo_trim _ field)
  · intro fails
    cases fails with
    | tooLong numeral many => rw [readNumber_written, if_pos many]
    | invalid notBlank noNumeral trimmed =>
        rw [readNumber_of_no_numeral notBlank noNumeral, trimmed.trim_eq]

/-! ## Numbers and their digits -/

/-- Digits alone make a numeral. -/
theorem exists_numeral_of_isDigit
    {digits : Text}
    (isDigit : ∀ c ∈ digits, Character.isDigit c = true)
    (nonempty : digits ≠ []) :
    ∃ numeral : Numeral, numeral.written = digits ∧ numeral.digits = digits := by
  let numeral : Numeral := {
    before := []
    sign := .absent
    digits := digits
    after := []
    endsLine := false
    padsBefore := by simp
    areDigits := isDigit
    nonempty := nonempty
    padsAfter := by simp }
  refine ⟨numeral, ?_, rfl⟩
  show [] ++ ([] ++ (digits ++ ([] ++ []))) = digits
  simp

/-- Digits alone stand for no number if there are too many of them, whatever its value is. -/
theorem failsAs_of_maximumDigits_lt
    {digits : Text}
    (isDigit : ∀ c ∈ digits, Character.isDigit c = true)
    (many : maximumDigits < digits.length)
    (expansion : Text) :
    FailsAs expansion digits (.numberTooLong digits.length) := by
  have nonempty : digits ≠ [] := List.ne_nil_of_length_pos (Nat.zero_lt_of_lt many)
  rcases exists_numeral_of_isDigit isDigit nonempty with ⟨numeral, written, same⟩
  have manyDigits : maximumDigits < numeral.digits.length := by rwa [same]
  have fails : FailsAs expansion _ _ := FailsAs.tooLong numeral manyDigits
  rwa [written, same] at fails

/-- The decimal text of a number behind padding is a numeral. -/
theorem exists_numeral_ofInt
    {padding : Text}
    (isPad : ∀ c ∈ padding, isPadding c = true)
    (number : Int) :
    ∃ numeral : Numeral, numeral.written = padding ++ Text.Decimal.ofInt number ∧
      numeral.digits = Text.Decimal.ofNat number.natAbs ∧ numeral.value = number := by
  let numeral : Numeral := {
    before := padding
    sign := .ofInt number
    digits := Text.Decimal.ofNat number.natAbs
    after := []
    endsLine := false
    padsBefore := isPad
    areDigits := fun _ member => isDigit_of_charIsDigit (isDigit_of_mem_ofNat member)
    nonempty := Nat.toDigits_ne_nil
    padsAfter := by simp }
  have magnitude : numeral.magnitude = number.natAbs := by
    rw [Numeral.magnitude, ← valueOfDigits_eq_ofDigits]
    exact valueOfDigits_ofNat number.natAbs
  refine ⟨numeral, ?_, rfl, ?_⟩
  · rw [← NumberSign.written_ofInt_append]
    simp [numeral, Numeral.written, Numeral.closing]
  · rw [Numeral.value, magnitude]
    exact NumberSign.apply_ofInt number

/-- Decimal text behind padding stands for its number. -/
theorem standsFor_append_ofInt
    {padding : Text} {number : Int}
    (isPad : ∀ c ∈ padding, isPadding c = true)
    (readable : IsReadable number) :
    StandsFor (padding ++ Text.Decimal.ofInt number) number := by
  rcases exists_numeral_ofInt isPad number with ⟨numeral, written, digits, value⟩
  have fits : numeral.digits.length ≤ maximumDigits := by
    rw [digits]
    exact readable
  have stands := StandsFor.numeral numeral fits
  rwa [written, value] at stands

/-- A number that a field stands for has a decimal text that is read. -/
theorem StandsFor.isReadable
    {field : Text} {number : Int}
    (stands : StandsFor field number) :
    IsReadable number := by
  cases stands with
  | blank blank => decide
  | numeral numeral fits =>
      have magnitude : numeral.value.natAbs = valueOfDigits numeral.digits := by
        rw [valueOfDigits_eq_ofDigits, Numeral.value]
        cases numeral.sign with
        | minus => exact Int.natAbs_neg _
        | plus => rfl
        | absent => rfl
      rw [isReadable_iff, magnitude]
      exact Nat.lt_of_lt_of_le (valueOfDigits_lt numeral.digits)
        (Nat.pow_le_pow_right (by decide) fits)

end ParameterExpansion.Template
