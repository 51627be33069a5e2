/-!
# Tables of code points

Properties of characters are tables of code points in ascending order.  A look-up walks the table
and stops at the first entry that does not lie wholly below the character, so a character near the
start of the code space is found at once.
-/

namespace ParameterExpansion.Character

/-- Ranges of code points, both ends included, in ascending order. -/
abbrev Ranges := List (Nat × Nat)

/-- The ranges hold the character. -/
def Ranges.contains (ranges : Ranges) (c : Char) : Bool :=
  match ranges with
  | [] => false
  | (first, last) :: rest =>
    if last < c.toNat then Ranges.contains rest c else first ≤ c.toNat

/-- Runs of code points in ascending order: first, last and the step between neighbours. -/
abbrev Runs := List (Nat × Nat × Nat)

/-- The runs hold the character. -/
def Runs.contains (runs : Runs) (c : Char) : Bool :=
  match runs with
  | [] => false
  | (first, last, step) :: rest =>
    if last < c.toNat then Runs.contains rest c
    else first ≤ c.toNat && (c.toNat - first) % step == 0

/-- Runs of code points in ascending order, each with the shift that its members undergo. -/
abbrev Shifts := List (Nat × Nat × Nat × Int)

/-- Move a character by the shift of its run; a character in no run stays. -/
def Shifts.apply (shifts : Shifts) (c : Char) : Char :=
  match shifts with
  | [] => c
  | (first, last, step, shift) :: rest =>
    if last < c.toNat then Shifts.apply rest c
    else if first ≤ c.toNat && (c.toNat - first) % step == 0 then
      Char.ofNat (c.toNat + shift).toNat
    else c

end ParameterExpansion.Character
