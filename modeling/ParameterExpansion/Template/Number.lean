import ParameterExpansion.Character.Blank
import ParameterExpansion.Character.Digit
import ParameterExpansion.Failure

/-!
# Numbers in substring operations

An offset or a length is a sign, or none, and decimal digits of any script, with spaces and tabs
around them and at most one line feed at the end.  A field of white space alone, or an empty one, is
zero.  A number is not read if it has too many digits, whatever its value is.
-/

namespace ParameterExpansion.Template

/-- Spaces and tabs, which may stand around a number. -/
def isPadding (c : Char) : Bool :=
  c == ' ' || c == '\t'

/-- The value of decimal digits, the most significant first. -/
def valueOfDigits (digits : Text) : Nat :=
  digits.foldl (fun value c => 10 * value + (Character.digitValue? c).getD 0) 0

/-- Take a sign off the front of a text; without a sign a number is positive. -/
def takeSign : Text → Bool × Text
  | '-' :: rest => (true, rest)
  | '+' :: rest => (false, rest)
  | text => (false, text)

/-- The sign and the digits of a number field; `true` stands for a minus sign. -/
def numeral? (field : Text) : Option (Bool × Text) :=
  let (negative, unsigned) := takeSign (field.dropWhile isPadding)
  let digits := unsigned.takeWhile Character.isDigit
  let closing := (unsigned.dropWhile Character.isDigit).dropWhile isPadding
  if digits ≠ [] ∧ (closing = [] ∨ closing = ['\n']) then some (negative, digits) else none

/-- Read a number field of an expansion; the text of the expansion is needed for the failure. -/
def readNumber (expansion field : Text) : Except Failure Int :=
  if field.all Character.isBlank then .ok 0
  else
    match numeral? field with
    | none => .error (.invalid expansion (.invalidInteger (field.trim Character.isBlank)))
    | some (negative, digits) =>
      if maximumDigits < digits.length then .error (.numberTooLong digits.length)
      else .ok (if negative then -(valueOfDigits digits : Int) else valueOfDigits digits)

end ParameterExpansion.Template
