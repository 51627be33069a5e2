import ParameterExpansion.Text.Decimal

/-!
# Failures

Why a template cannot be read or expanded.  Each failure keeps what a caller may want to know about
it; its wording is made from that in one place.  A limit that is part of the wording may have more
digits than are written, and then there is another failure in its place; a length is read from the
template, so it can always be written.  A caller may also state a failure in words of its own.
-/

namespace ParameterExpansion

/-- What is wrong with an expansion. -/
inductive Fault where
  | badSubstitution
  | invalidInteger (field : Text)
  | negativeLength (length : Int)
  | stated (reason : Text)
  deriving DecidableEq, Repr

/-- The reason given for a fault; a bad substitution has none. -/
def Fault.reason? : Fault → Option Text
  | .badSubstitution => none
  | .invalidInteger field => some (field ++ ": invalid integer".toList)
  | .negativeLength length =>
    some (Text.Decimal.ofInt length ++ ": substring expression < 0".toList)
  | .stated reason => some reason

/-- A limit that a template goes beyond. -/
inductive Excess where
  | nesting (maximum : Int)
  | size (length : Nat) (maximum : Int)
  | stated (message : Text) (limit? : Option Text)
  deriving DecidableEq, Repr

/-- The name of the limit; a stated excess may leave it open. -/
def Excess.limit? : Excess → Option Text
  | .nesting _ => some "nesting_depth".toList
  | .size _ _ => some "input_size".toList
  | .stated _ limit? => limit?

/-- The limit can be written.  The length of a text is never so large that it could not. -/
def Excess.IsWritable : Excess → Prop
  | .nesting maximum | .size _ maximum => IsReadable maximum
  | .stated _ _ => True

instance : DecidablePred Excess.IsWritable
  | .nesting maximum | .size _ maximum => inferInstanceAs (Decidable (IsReadable maximum))
  | .stated _ _ => inferInstanceAs (Decidable True)

/-- An excess in words. -/
def Excess.message : Excess → Text
  | .nesting maximum =>
    "expansion nesting too deep (max ".toList ++ Text.Decimal.ofInt maximum ++ [')']
  | .size length maximum =>
    "template too large: ".toList ++ Text.Decimal.ofNat length ++ " characters (max ".toList ++
      Text.Decimal.ofInt maximum ++ [')']
  | .stated message _ => message

/--
Why a template cannot be read or expanded.  The detail of an unset variable or parameter may be
empty; a standard wording then stands in for it.
-/
inductive Failure where
  | unterminated (text : Text) (position : Int)
  | invalid (text : Text) (fault : Fault)
  | variableNotSet (name : Name) (detail : Text)
  | parameterUnset (name : Name) (detail : Text)
  | limitExceeded (excess : Excess)
  | numberTooLong (digits : Nat)
  | numberUnwritable
  | stated (message : Text)
  deriving DecidableEq, Repr

namespace Failure

/-! ## Making failures -/

/-- A limit is exceeded, which cannot be told if it cannot be written. -/
def ofExcess (excess : Excess) : Failure :=
  if excess.IsWritable then .limitExceeded excess else .numberUnwritable

theorem ofExcess_cases (excess : Excess) :
    excess.IsWritable ∧ ofExcess excess = .limitExceeded excess ∨
      ¬ excess.IsWritable ∧ ofExcess excess = .numberUnwritable := by
  by_cases writable : excess.IsWritable
  · exact Or.inl ⟨writable, if_pos writable⟩
  · exact Or.inr ⟨writable, if_neg writable⟩

theorem ofExcess_eq_limitExceeded_iff
    {excess other : Excess} :
    ofExcess excess = .limitExceeded other ↔ excess.IsWritable ∧ excess = other := by
  rcases ofExcess_cases excess with ⟨writable, made⟩ | ⟨unwritable, made⟩
  · simp [made, writable]
  · simp [made, unwritable]

theorem ofExcess_ne_unterminated
    (excess : Excess)
    (text : Text)
    (position : Int) :
    ofExcess excess ≠ .unterminated text position := by
  rcases ofExcess_cases excess with ⟨_, made⟩ | ⟨_, made⟩
  · simp [made]
  · simp [made]

/-- An expansion is invalid for a reason in words, or for none. -/
def ofReason (text : Text) (reason? : Option Text) : Failure :=
  .invalid text (reason?.elim .badSubstitution .stated)

/-- A limit is exceeded, in words; if nothing is said about the limit, it is that of the nesting. -/
def ofLimit (message : Text) (limit? : Option Text := some "nesting_depth".toList) : Failure :=
  .limitExceeded (.stated message limit?)

/-! ## Wording -/

/-- A text, or another in place of an empty one. -/
def orElse (text standard : Text) : Text :=
  if text.isEmpty then standard else text

/-- What is said about an unset variable. -/
def variableDetail (detail : Text) : Text :=
  orElse detail "variable not set".toList

/-- What is said about an unset parameter. -/
def parameterDetail (detail : Text) : Text :=
  orElse detail "parameter not set".toList

/-- What is said about a number with too many digits. -/
def digitsDetail (detail : Text) : Text :=
  "Exceeds the limit (4300 digits) for integer string conversion".toList ++ detail ++
    "; use sys.set_int_max_str_digits() to increase the limit".toList

/-- A failure in words. -/
def message : Failure → Text
  | .unterminated text position =>
    text ++ ": unterminated expansion at position ".toList ++ Text.Decimal.ofInt position
  | .invalid text fault =>
    text ++ ": ".toList ++ orElse (fault.reason?.getD []) "bad substitution".toList
  | .variableNotSet name detail => name ++ ": ".toList ++ variableDetail detail
  | .parameterUnset name detail => name ++ ": ".toList ++ parameterDetail detail
  | .limitExceeded excess => excess.message
  | .numberTooLong digits =>
    digitsDetail (": value has ".toList ++ Text.Decimal.ofNat digits ++ " digits".toList)
  | .numberUnwritable => digitsDetail []
  | .stated message => message

/-- A fault that is stated in words is told in the same way as the fault. -/
theorem message_ofReason
    (text : Text)
    (fault : Fault) :
    (ofReason text fault.reason?).message = (Failure.invalid text fault).message := by
  cases fault <;> rfl

/-- An excess that is stated in words is told in the same way as the excess. -/
theorem message_ofLimit (excess : Excess) :
    (ofLimit excess.message excess.limit?).message = (Failure.limitExceeded excess).message :=
  rfl

/-- The failures that are about the template or its variables, and not about digits of numbers. -/
def isExpansionFailure : Failure → Bool
  | .numberTooLong _ | .numberUnwritable => false
  | _ => true

/-- The name of the kind of failure, as diagnostic output gives it. -/
def label : Failure → Text
  | .unterminated _ _ => "UnterminatedExpansionError".toList
  | .invalid _ _ => "InvalidExpansionError".toList
  | .variableNotSet _ _ => "VariableNotSetError".toList
  | .parameterUnset _ _ => "ParameterUnsetError".toList
  | .limitExceeded _ => "ExpansionLimitError".toList
  | .numberTooLong _ | .numberUnwritable => "ValueError".toList
  | .stated _ => "EnvsubstError".toList

end Failure

end ParameterExpansion
