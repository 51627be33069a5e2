import ParameterExpansion.Failure

/-!
# Substrings

A negative offset counts from the end of the value, and an offset outside the value gives nothing.
A length counts characters from the offset; a negative one names a place counted from the end of
the value, and it is a fault for that place to come before the offset.
-/

namespace ParameterExpansion.Expansion

/-- Where a substring starts, if it starts inside the value or at its end. -/
def startOf? (value : Text) (offset : Int) : Option Nat :=
  let start := if offset < 0 then offset + value.length else offset
  if start < 0 ∨ (value.length : Int) < start then none else some start.toNat

/-- A substring of a value; a negative length must not end before the offset. -/
def substring (value : Text) (offset : Int) (length? : Option Int) : Except Fault Text :=
  match startOf? value offset with
  | none => .ok []
  | some start =>
    match length? with
    | none => .ok (value.drop start)
    | some length =>
      if length < 0 then
        let stop := (value.length : Int) + length
        if stop < start then .error (.negativeLength length)
        else .ok ((value.take stop.toNat).drop start)
      else .ok ((value.drop start).take length.toNat)

end ParameterExpansion.Expansion
