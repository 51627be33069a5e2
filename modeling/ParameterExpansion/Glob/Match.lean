import ParameterExpansion.Glob.Token

/-!
# Anchored matches

A pattern is followed through a text one character at a time.  What is kept are positions in the
pattern: a position is kept when the text read so far matches the tokens in front of it.  The text
read so far matches the whole pattern when only stars are left at one of the positions, so one pass
finds the shortest or the longest matching prefix, and it ends early when no position is left.
Suffixes are prefixes of the reversed text under the reversed pattern.
-/

namespace ParameterExpansion.Glob

/--
The positions that a character leads to from a position, in ascending order.  A star may take the
character and stay open, or it may have ended before.
-/
def positionsAfter (pattern : Array Token) (c : Char) (position : Nat) : List Nat :=
  if inside : position < pattern.size then
    match pattern[position] with
    | .star => position :: positionsAfter pattern c (position + 1)
    | token => if token.contains c then [position + 1] else []
  else []
termination_by pattern.size - position

/-- Two ascending lists of positions as one, without repetition. -/
def mergePositions : List Nat → List Nat → List Nat
  | [], later => later
  | earlier, [] => earlier
  | left :: earlier, right :: later =>
    if left < right then left :: mergePositions earlier (right :: later)
    else if right < left then right :: mergePositions (left :: earlier) later
    else left :: mergePositions earlier later
termination_by earlier later => earlier.length + later.length

/-- A position of a merged list is one of the two. -/
theorem mem_mergePositions {position : Nat} {earlier later : List Nat} :
    position ∈ mergePositions earlier later ↔ position ∈ earlier ∨ position ∈ later := by
  fun_induction mergePositions earlier later with
  | case1 => simp
  | case2 => simp
  | case3 _ _ _ _ _ ih => simp only [List.mem_cons, ih, or_assoc]
  | case4 _ _ _ _ _ _ ih =>
    simp only [List.mem_cons, ih]
    grind
  | case5 left earlier right later _ _ ih =>
    obtain rfl : left = right := by omega
    simp only [List.mem_cons, ih]
    grind

/-- The positions that a character leads to from any of some positions. -/
def advance (pattern : Array Token) (c : Char) (positions : List Nat) : List Nat :=
  positions.foldr
    (fun position later => mergePositions (positionsAfter pattern c position) later) []

/-- A character leads to the positions that it leads to from one of those before. -/
theorem mem_advance
    {pattern : Array Token} {c : Char} {positions : List Nat} {position : Nat} :
    position ∈ advance pattern c positions ↔
      ∃ before ∈ positions, position ∈ positionsAfter pattern c before := by
  induction positions with
  | nil => simp [advance]
  | cons first rest ih =>
    rw [advance, List.foldr_cons, ← advance, mem_mergePositions, ih]
    simp

/-- From a position on there are only stars. -/
def isClosed (pattern : Array Token) (position : Nat) : Bool :=
  if inside : position < pattern.size then
    pattern[position] == .star && isClosed pattern (position + 1)
  else true
termination_by pattern.size - position

/--
The length of the longest or the shortest matching prefix.  `positions` belong to the text passed,
whose length is `passed`; `found` is the greatest length found before.
-/
def matchFrom (longest : Bool) (pattern : Array Token) (positions : List Nat) (passed : Nat)
    (found : Option Nat) (text : Text) : Option Nat :=
  let found := if positions.any (isClosed pattern) then some passed else found
  if positions.isEmpty || !longest && found.isSome then found
  else
    match text with
    | [] => found
    | c :: rest =>
      matchFrom longest pattern (advance pattern c positions) (passed + 1) found rest

/-- The length of the longest or the shortest matching prefix. -/
def matchPrefix? (longest : Bool) (pattern : List Token) (text : Text) : Option Nat :=
  matchFrom longest pattern.toArray [0] 0 none text

/-- Where the longest or the shortest matching suffix starts. -/
def matchSuffix? (longest : Bool) (pattern : List Token) (text : Text) : Option Nat :=
  (matchPrefix? longest pattern.reverse text.reverse).map (text.length - ·)

/-- The end of a text at which a pattern is matched. -/
inductive Side where
  | leading
  | trailing
  deriving DecidableEq, Repr

/-- Cut the longest or the shortest match off one end of a text; without a match nothing is cut. -/
def remove (side : Side) (longest : Bool) (pattern : List Token) (text : Text) : Text :=
  match side with
  | .leading =>
    match matchPrefix? longest pattern text with
    | none => text
    | some length => text.drop length
  | .trailing =>
    match matchSuffix? longest pattern text with
    | none => text
    | some start => text.take start

end ParameterExpansion.Glob
