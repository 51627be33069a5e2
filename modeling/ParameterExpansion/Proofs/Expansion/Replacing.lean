import ParameterExpansion.Expansion.Replacement
import ParameterExpansion.Proofs.Glob.QuotedPattern
import ParameterExpansion.Proofs.Text.Occurrence

/-!
# Replacing occurrences

What a replacement of literal text does, stated on the value: which occurrences of the pattern each
scope names, and that the value stays as it is if there are none.  This says what the result is, so
only one text satisfies it.
-/

namespace ParameterExpansion.Expansion

open Template

/-- What a value becomes when the pattern at one end is replaced, or the value without one there. -/
def IsReplacedAt (side : Glob.Side) (pattern replacement value result : Text) : Prop :=
  (∃ rest, side.join pattern rest = value ∧ result = side.join replacement rest) ∨
  (∀ rest, side.join pattern rest ≠ value) ∧ result = value

/-- What a value becomes when the occurrences of a pattern that a scope names are replaced. -/
def IsReplaced (scope : Scope) (pattern replacement value result : Text) : Prop :=
  match scope with
  | .first =>
      (∃ before after, Text.IsFirstOccurrence pattern value before after ∧
        result = before ++ replacement ++ after) ∨
      ¬ pattern <:+: value ∧ result = value
  | .all => ∃ pieces, Text.IsCutInto pattern value pieces ∧ result = replacement.intercalate pieces
  | .atStart => IsReplacedAt .leading pattern replacement value result
  | .atEnd => IsReplacedAt .trailing pattern replacement value result

/-! ## One result -/

theorem IsReplacedAt.unique
    {side : Glob.Side} {pattern replacement value left right : Text}
    (replaced : IsReplacedAt side pattern replacement value left)
    (replaced' : IsReplacedAt side pattern replacement value right) :
    left = right := by
  rcases replaced with ⟨rest, joined, rfl⟩ | ⟨absent, rfl⟩
  · rcases replaced' with ⟨rest', joined', rfl⟩ | ⟨absent, _⟩
    · rw [Glob.Side.eq_of_join_eq_join (joined.trans joined'.symm)]
    · exact (absent rest joined).elim
  · rcases replaced' with ⟨rest, joined, _⟩ | ⟨_, rfl⟩
    · exact (absent rest joined).elim
    · rfl

/-- A value becomes one text only. -/
theorem IsReplaced.unique
    {scope : Scope} {pattern replacement value left right : Text}
    (replaced : IsReplaced scope pattern replacement value left)
    (replaced' : IsReplaced scope pattern replacement value right) :
    left = right := by
  cases scope with
  | first =>
      rcases replaced with ⟨before, after, first, rfl⟩ | ⟨absent, rfl⟩
      · rcases replaced' with ⟨before', after', first', rfl⟩ | ⟨absent, _⟩
        · rcases first.unique first' with ⟨rfl, rfl⟩
          rfl
        · exact (absent first.isInfix).elim
      · rcases replaced' with ⟨_, _, first, _⟩ | ⟨_, rfl⟩
        · exact (absent first.isInfix).elim
        · rfl
  | all =>
      rcases replaced with ⟨pieces, isCut, rfl⟩
      rcases replaced' with ⟨pieces', isCut', rfl⟩
      rw [isCut.unique isCut']
  | atStart => exact IsReplacedAt.unique replaced replaced'
  | atEnd => exact IsReplacedAt.unique replaced replaced'

/-! ## Replacing -/

theorem replaceAtStart_isReplacedAt (pattern replacement value : Text) :
    IsReplacedAt .leading pattern replacement value
      (replaceAtStart pattern replacement value) := by
  rw [replaceAtStart]
  split
  · rename_i fits
    obtain ⟨rest, rfl⟩ := List.isPrefixOf_iff_prefix.mp fits
    exact Or.inl ⟨rest, rfl, by rw [List.drop_left, Glob.Side.join]⟩
  · rename_i absent
    refine Or.inr ⟨?_, rfl⟩
    intro rest joined
    exact absent (List.isPrefixOf_iff_prefix.mpr ⟨rest, joined⟩)

theorem replaceAtEnd_isReplacedAt (pattern replacement value : Text) :
    IsReplacedAt .trailing pattern replacement value
      (replaceAtEnd pattern replacement value) := by
  rw [replaceAtEnd]
  split
  · rename_i fits
    obtain ⟨rest, rfl⟩ := List.isSuffixOf_iff_suffix.mp fits
    exact Or.inl ⟨rest, rfl, by simp [Glob.Side.join]⟩
  · rename_i absent
    refine Or.inr ⟨?_, rfl⟩
    intro rest joined
    exact absent (List.isSuffixOf_iff_suffix.mpr ⟨rest, joined⟩)

/-- A pattern that is not empty is replaced where the scope says. -/
theorem isReplaced_replace
    {pattern : Text}
    (nonempty : pattern ≠ [])
    (scope : Scope)
    (replacement value : Text) :
    IsReplaced scope pattern replacement value (replace scope pattern replacement value) := by
  cases scope with
  | first =>
      rw [replace, if_neg (by simpa using nonempty), Text.replaceFirst]
      have isCut := Text.isFirstCut_cut? nonempty value
      cases found : Text.cut? pattern value with
      | none =>
          rw [found] at isCut
          exact Or.inr ⟨isCut, rfl⟩
      | some parts =>
          rw [found] at isCut
          exact Or.inl ⟨parts.1, parts.2, isCut, rfl⟩
  | all =>
      rw [replace, if_neg (by simpa using nonempty)]
      exact ⟨value.separate pattern, Text.isCutInto_separate nonempty value, rfl⟩
  | atStart => exact replaceAtStart_isReplacedAt pattern replacement value
  | atEnd => exact replaceAtEnd_isReplacedAt pattern replacement value

end ParameterExpansion.Expansion
