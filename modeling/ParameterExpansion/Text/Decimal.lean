import ParameterExpansion.Text.Basic

/-!
# Decimal text of numbers

Numbers are written with as many digits as they need; a negative number carries a minus sign.
Numbers have no size limit, but no more than 4300 digits are read, and no number that needs more is
written.
-/

namespace ParameterExpansion

namespace Text.Decimal

/-- The decimal digits of a natural number. -/
def ofNat (number : Nat) : Text :=
  Nat.toDigits 10 number

/-- The decimal digits of an integer, after a minus sign if it is negative. -/
def ofInt : Int → Text
  | .ofNat number => ofNat number
  | .negSucc number => '-' :: ofNat (number + 1)

end Text.Decimal

/-- The greatest number of digits that are read as a number, or written for one. -/
def maximumDigits : Nat := 4300

/-- The decimal text of a number has no more digits than are read and written. -/
def IsReadable (number : Int) : Prop :=
  (Text.Decimal.ofNat number.natAbs).length ≤ maximumDigits

instance (number : Int) : Decidable (IsReadable number) :=
  inferInstanceAs (Decidable (_ ≤ _))

end ParameterExpansion
