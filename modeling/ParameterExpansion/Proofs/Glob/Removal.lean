import ParameterExpansion.Proofs.Glob.AnchoredMatch

/-!
# Removing a match

Removal cuts a value in two and keeps one part.  The part that is cut off stands at one end, matches
the pattern, and no matching part at that end is longer, or none is shorter.  A value of which no
part at that end matches is kept whole.
-/

namespace ParameterExpansion.Glob

/-- A value with a part at one end put back. -/
def Side.join (side : Side) (part rest : Text) : Text :=
  match side with
  | .leading => part ++ rest
  | .trailing => rest ++ part

/-- The lengths of the parts at one end of a value that match a pattern. -/
def partLengths (side : Side) (pattern : List Token) (value : Text) : Set Nat :=
  {length | ∃ part rest, side.join part rest = value ∧ Matches pattern part ∧ part.length = length}

/--
What is left of a value when the longest or the shortest matching part at one end is cut off, or
the value itself if no part matches.
-/
def IsTrimmed (side : Side) (longest : Bool) (pattern : List Token) (value rest : Text) : Prop :=
  (∃ part, side.join part rest = value ∧ Matches pattern part ∧
    IsExtreme longest (partLengths side pattern value) part.length) ∨
  partLengths side pattern value = ∅ ∧ rest = value

theorem partLengths_leading (pattern : List Token) (value : Text) :
    partLengths .leading pattern value = prefixLengths pattern value := by
  ext length
  constructor
  · rintro ⟨part, rest, rfl, matched, rfl⟩
    refine ⟨?_, ?_⟩
    · simp [Side.join]
    · simpa [Side.join] using matched
  · rintro ⟨bound, matched⟩
    refine ⟨value.take length, value.drop length, List.take_append_drop _ _, matched, ?_⟩
    exact List.length_take_of_le bound

theorem mem_partLengths_trailing_iff
    {pattern : List Token} {value : Text} {length : Nat} :
    length ∈ partLengths .trailing pattern value ↔
      ∃ start ∈ suffixStarts pattern value, value.length - start = length := by
  constructor
  · rintro ⟨part, rest, rfl, matched, rfl⟩
    refine ⟨rest.length, ⟨?_, ?_⟩, ?_⟩
    · simp [Side.join]
    · simpa [Side.join] using matched
    · simp [Side.join]
  · rintro ⟨start, ⟨bound, matched⟩, rfl⟩
    refine ⟨value.drop start, value.take start, List.take_append_drop _ _, matched, ?_⟩
    exact List.length_drop

/-- The part that starts first is the longest, and the one that starts last the shortest. -/
theorem isExtreme_trailing
    {longest : Bool} {pattern : List Token} {value : Text} {start : Nat}
    (extreme : IsExtreme (!longest) (suffixStarts pattern value) start) :
    IsExtreme longest (partLengths .trailing pattern value) (value.length - start) := by
  have member : value.length - start ∈ partLengths .trailing pattern value :=
    mem_partLengths_trailing_iff.mpr ⟨start, extreme.mem, rfl⟩
  cases longest with
  | true =>
      refine ⟨member, ?_⟩
      intro length other
      rcases mem_partLengths_trailing_iff.mp other with ⟨otherStart, isStart, rfl⟩
      exact Nat.sub_le_sub_left (extreme.2 isStart) _
  | false =>
      refine ⟨member, ?_⟩
      intro length other
      rcases mem_partLengths_trailing_iff.mp other with ⟨otherStart, isStart, rfl⟩
      exact Nat.sub_le_sub_left (extreme.2 isStart) _

theorem remove_leading_isTrimmed
    (longest : Bool)
    (pattern : List Token)
    (value : Text) :
    IsTrimmed .leading longest pattern value (remove .leading longest pattern value) := by
  have isFound := matchPrefix?_isFound longest pattern value
  rw [remove, IsTrimmed, partLengths_leading]
  cases found : matchPrefix? longest pattern value with
  | none => exact Or.inr ⟨isFound.eq_none_iff.mp found, rfl⟩
  | some length =>
      have extreme := (isFound.eq_some_iff length).mp found
      refine Or.inl ⟨value.take length, List.take_append_drop _ _, extreme.mem.2, ?_⟩
      rwa [List.length_take_of_le extreme.mem.1]

theorem remove_trailing_isTrimmed
    (longest : Bool)
    (pattern : List Token)
    (value : Text) :
    IsTrimmed .trailing longest pattern value (remove .trailing longest pattern value) := by
  have isFound := matchSuffix?_isFound longest pattern value
  rw [remove, IsTrimmed]
  cases found : matchSuffix? longest pattern value with
  | none =>
      refine Or.inr ⟨?_, rfl⟩
      apply Set.eq_empty_iff_forall_notMem.mpr
      intro length member
      rcases mem_partLengths_trailing_iff.mp member with ⟨start, isStart, _⟩
      have empty := isFound.eq_none_iff.mp found
      simp [empty] at isStart
  | some start =>
      have extreme := (isFound.eq_some_iff start).mp found
      refine Or.inl ⟨value.drop start, List.take_append_drop _ _, extreme.mem.2, ?_⟩
      rw [List.length_drop]
      exact isExtreme_trailing extreme

theorem remove_isTrimmed
    (side : Side)
    (longest : Bool)
    (pattern : List Token)
    (value : Text) :
    IsTrimmed side longest pattern value (remove side longest pattern value) := by
  cases side with
  | leading => exact remove_leading_isTrimmed longest pattern value
  | trailing => exact remove_trailing_isTrimmed longest pattern value

/--
A search for the shortest matching suffix returns the last place at which one starts, one for the
longest the first place, and nothing exactly when no suffix matches, the empty one included.  So a
removal cuts off the shortest or the longest matching part at its end, or nothing.
-/
theorem matchSuffix?_eq_iff_and_remove_isTrimmed
    (pattern : List Token)
    (text : Text) :
    (∀ start,
      matchSuffix? false pattern text = some start ↔
        IsGreatest (suffixStarts pattern text) start) ∧
    (∀ start,
      matchSuffix? true pattern text = some start ↔
        IsLeast (suffixStarts pattern text) start) ∧
    (∀ longest,
      matchSuffix? longest pattern text = none ↔
        ∀ start ≤ text.length, ¬ Matches pattern (text.drop start)) ∧
    ∀ side longest,
      IsTrimmed side longest pattern text (remove side longest pattern text) := by
  refine ⟨?_, ?_, ?_, ?_⟩
  · exact (matchSuffix?_isFound false pattern text).eq_some_iff
  · exact (matchSuffix?_isFound true pattern text).eq_some_iff
  · intro longest
    rw [(matchSuffix?_isFound longest pattern text).eq_none_iff, Set.eq_empty_iff_forall_notMem]
    constructor
    · intro none start bound matched
      exact none start ⟨bound, matched⟩
    · intro none start member
      exact none start member.1 member.2
  · intro side longest
    exact remove_isTrimmed side longest pattern text

end ParameterExpansion.Glob
