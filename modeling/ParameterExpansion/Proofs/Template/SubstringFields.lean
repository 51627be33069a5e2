import Mathlib.Data.Option.Basic
import ParameterExpansion.Proofs.Template.NumberField
import ParameterExpansion.Proofs.Template.Parsing

/-!
# The fields of a substring

The text of a substring is cut at its first colon into an offset and a length, or is an offset alone.
It is read exactly if each of these fields stands for a number, and it fails for the first field that
does not.
-/

namespace ParameterExpansion.Template

/-- The reason for which the fields of a substring are not read: that of the first bad one. -/
inductive FailsFirst (expansion : Text) : Text → Option Text → Failure → Prop where
  | offset {offset : Text} {length? : Option Text} {failure : Failure}
      (fails : FailsAs expansion offset failure) : FailsFirst expansion offset length? failure
  | length {offset length : Text} {start : Int} {failure : Failure}
      (stands : StandsFor offset start)
      (fails : FailsAs expansion length failure) :
      FailsFirst expansion offset (some length) failure

section Fields

variable {expansion text offset : Text} {length? : Option Text}

/-- Both fields are read as the numbers that they stand for. -/
theorem readSubstring_eq_ok_iff
    {operation : Operation Text}
    (cuts : Text.CutsAt ':' text offset length?) :
    readSubstring expansion text = .ok operation ↔
      ∃ start count?, StandsFor offset start ∧ Option.Rel StandsFor length? count? ∧
        operation = .substring start count? := by
  rw [readSubstring, Text.cutAtFirst_eq_iff.mpr cuts]
  cases length? with
  | none =>
      constructor
      · intro read
        rcases (bind_eq_ok_iff _ _ _).mp read with ⟨start, readOffset, same⟩
        cases same
        exact ⟨start, none, readNumber_eq_ok_iff.mp readOffset, .none, rfl⟩
      · rintro ⟨start, count?, stands, related, rfl⟩
        cases related
        refine (bind_eq_ok_iff _ _ _).mpr ⟨start, readNumber_eq_ok_iff.mpr stands, rfl⟩
  | some length =>
      constructor
      · intro read
        rcases (bind_eq_ok_iff _ _ _).mp read with ⟨start, readOffset, read⟩
        rcases (bind_eq_ok_iff _ _ _).mp read with ⟨count, readLength, same⟩
        cases same
        exact ⟨start, some count, readNumber_eq_ok_iff.mp readOffset,
          .some (readNumber_eq_ok_iff.mp readLength), rfl⟩
      · rintro ⟨start, count?, stands, related, rfl⟩
        cases related with
        | some standsLength =>
        refine (bind_eq_ok_iff _ _ _).mpr ⟨start, readNumber_eq_ok_iff.mpr stands, ?_⟩
        exact (bind_eq_ok_iff _ _ _).mpr ⟨_, readNumber_eq_ok_iff.mpr standsLength, rfl⟩

/-- The first field that stands for no number gives the failure. -/
theorem readSubstring_eq_error_iff
    {failure : Failure}
    (cuts : Text.CutsAt ':' text offset length?) :
    readSubstring expansion text = .error failure ↔
      FailsFirst expansion offset length? failure := by
  rw [readSubstring, Text.cutAtFirst_eq_iff.mpr cuts]
  cases length? with
  | none =>
      constructor
      · intro failed
        rcases (bind_eq_error_iff _ _ _).mp failed with failed | ⟨_, _, impossible⟩
        · exact .offset (readNumber_eq_error_iff.mp failed)
        · cases impossible
      · rintro ⟨fails⟩
        exact (bind_eq_error_iff _ _ _).mpr (.inl (readNumber_eq_error_iff.mpr fails))
  | some length =>
      constructor
      · intro failed
        rcases (bind_eq_error_iff _ _ _).mp failed with failed | ⟨start, readOffset, failed⟩
        · exact .offset (readNumber_eq_error_iff.mp failed)
        · rcases (bind_eq_error_iff _ _ _).mp failed with failed | ⟨_, _, impossible⟩
          · exact .length (readNumber_eq_ok_iff.mp readOffset) (readNumber_eq_error_iff.mp failed)
          · cases impossible
      · intro fails
        apply (bind_eq_error_iff _ _ _).mpr
        cases fails with
        | offset fails => exact .inl (readNumber_eq_error_iff.mpr fails)
        | length stands fails =>
            refine .inr ⟨_, readNumber_eq_ok_iff.mpr stands, ?_⟩
            exact (bind_eq_error_iff _ _ _).mpr (.inl (readNumber_eq_error_iff.mpr fails))

end Fields

end ParameterExpansion.Template
