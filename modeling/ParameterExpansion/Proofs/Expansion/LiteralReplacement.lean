import ParameterExpansion.Proofs.Expansion.Replacing

/-!
# Laws of literal replacement

What a replacement does is fixed by the one way to cut the value at the leftmost occurrences of the
pattern, or by the text in front of or behind an occurrence at one end.  So replacing a pattern by
itself changes nothing, and replacing it by nothing at one end is removing it there.  If the
replacement has characters, and none of the pattern, then no occurrence is left or made, and doing it
again changes nothing.
-/

namespace ParameterExpansion.Expansion

open Template

section Laws

variable {pattern : Text}

/-! ## Occurrences in order -/

theorem replace_all_of_isCutInto
    {value : Text} {pieces : List Text}
    (nonempty : pattern ≠ [])
    (isCut : Text.IsCutInto pattern value pieces)
    (replacement : Text) :
    replace .all pattern replacement value = replacement.intercalate pieces := by
  rcases isReplaced_replace nonempty .all replacement value with ⟨pieces', isCut', result⟩
  rw [result, isCut'.unique isCut]

theorem isInfix_of_join_eq
    {side : Glob.Side} {rest value : Text}
    (joined : side.join pattern rest = value) :
    pattern <:+: value := by
  cases side with
  | leading => exact ⟨[], rest, joined⟩
  | trailing => exact ⟨rest, [], (List.append_nil _).trans joined⟩

/-- Where the pattern does not occur, nothing is replaced. -/
theorem replace_of_not_isInfix
    {value : Text}
    (nonempty : pattern ≠ [])
    (absent : ¬ pattern <:+: value)
    (scope : Scope)
    (replacement : Text) :
    replace scope pattern replacement value = value := by
  have unchanged : IsReplaced scope pattern replacement value value := by
    cases scope with
    | first => exact Or.inr ⟨absent, rfl⟩
    | all => exact ⟨[value], .last absent, List.intercalate_singleton.symm⟩
    | atStart | atEnd => exact Or.inr ⟨fun _ joined => absent (isInfix_of_join_eq joined), rfl⟩
  exact (isReplaced_replace nonempty scope replacement value).unique unchanged

theorem replace_first_of_isFirstOccurrence
    {value before after : Text}
    (nonempty : pattern ≠ [])
    (first : Text.IsFirstOccurrence pattern value before after)
    (replacement : Text) :
    replace .first pattern replacement value = before ++ replacement ++ after := by
  have replaced : IsReplaced .first pattern replacement value (before ++ replacement ++ after) :=
    Or.inl ⟨before, after, first, rfl⟩
  exact (isReplaced_replace nonempty .first replacement value).unique replaced

/-! ## Replacing a pattern by itself -/

theorem IsReplacedAt.eq_of_self
    {side : Glob.Side} {value result : Text}
    (replaced : IsReplacedAt side pattern pattern value result) :
    result = value := by
  rcases replaced with ⟨rest, joined, rfl⟩ | ⟨_, same⟩
  · exact joined
  · exact same

theorem IsReplaced.eq_of_self
    {scope : Scope} {value result : Text}
    (replaced : IsReplaced scope pattern pattern value result) :
    result = value := by
  cases scope with
  | first =>
      rcases replaced with ⟨before, after, first, rfl⟩ | ⟨_, same⟩
      · exact first.1.symm
      · exact same
  | all =>
      rcases replaced with ⟨pieces, isCut, rfl⟩
      exact isCut.intercalate_eq
  | atStart => exact IsReplacedAt.eq_of_self replaced
  | atEnd => exact IsReplacedAt.eq_of_self replaced

/-! ## Replacing by other characters -/

/-- A replacement that has characters, and none of the pattern, leaves no occurrence. -/
theorem not_isInfix_replace_all
    {replacement : Text}
    (nonempty : pattern ≠ [])
    (hasCharacters : replacement ≠ [])
    (disjoint : replacement.Disjoint pattern)
    (value : Text) :
    ¬ pattern <:+: replace .all pattern replacement value := by
  rcases isReplaced_replace nonempty .all replacement value with ⟨pieces, isCut, result⟩
  rw [result]
  intro occurs
  have hasPieces : pieces ≠ [] := by
    rcases isCut.exists_cons with ⟨piece, others, rfl⟩
    exact List.cons_ne_nil piece others
  rcases Text.exists_infix_of_infix_intercalate hasCharacters disjoint hasPieces occurs with
    ⟨piece, member, inside⟩
  exact isCut.not_isInfix nonempty member inside

/-! ## At one end -/

/-- At one end an occurrence is replaced, if there is one, whatever the mark for all says. -/
theorem replace_at_isReplacedAt
    (everywhere : Bool)
    (side : Glob.Side)
    (pattern replacement value : Text) :
    IsReplacedAt side pattern replacement value
      (replace (.ofFlags everywhere (some side)) pattern replacement value) := by
  cases side with
  | leading => exact replaceAtStart_isReplacedAt pattern replacement value
  | trailing => exact replaceAtEnd_isReplacedAt pattern replacement value

/--
A value is cut at the leftmost occurrences of a pattern in exactly one way.  Replacing all of them
joins the pieces with the replacement, and replacing the first puts the replacement behind the first
piece.  At one end an occurrence there is replaced, and without one the value stays as it is.
Replacing a pattern by itself changes nothing in any scope.  If the replacement has characters, and
none of the pattern, then replacing all occurrences leaves none, and doing it again changes nothing.
-/
theorem replace_of_isCutInto
    (nonempty : pattern ≠ [])
    (replacement value : Text) :
    (∃! pieces, Text.IsCutInto pattern value pieces) ∧
    (∀ pieces, Text.IsCutInto pattern value pieces →
      pattern.intercalate pieces = value ∧
      replace (.ofFlags true none) pattern replacement value = replacement.intercalate pieces ∧
      (∀ piece, pieces = [piece] →
        replace (.ofFlags false none) pattern replacement value = value) ∧
      ∀ piece others, pieces = piece :: others → others ≠ [] →
        replace (.ofFlags false none) pattern replacement value =
          piece ++ replacement ++ pattern.intercalate others) ∧
    (∀ everywhere side,
      let result := replace (.ofFlags everywhere (some side)) pattern replacement value
      (∀ rest, value = side.join pattern rest → result = side.join replacement rest) ∧
      ((∀ rest, value ≠ side.join pattern rest) → result = value)) ∧
    (∀ everywhere side?, replace (.ofFlags everywhere side?) pattern pattern value = value) ∧
    (replacement ≠ [] → replacement.Disjoint pattern →
      let result := replace (.ofFlags true none) pattern replacement value
      ¬ pattern <:+: result ∧
      replace (.ofFlags true none) pattern replacement result = result) := by
  refine ⟨?_, ?_, ?_, ?_, ?_⟩
  · exact ⟨_, Text.isCutInto_separate nonempty value,
      fun pieces isCut => isCut.unique (Text.isCutInto_separate nonempty value)⟩
  · intro pieces isCut
    refine ⟨isCut.intercalate_eq, replace_all_of_isCutInto nonempty isCut replacement, ?_, ?_⟩
    · rintro piece rfl
      cases isCut with
      | last absent => exact replace_of_not_isInfix nonempty absent .first replacement
      | next first others => cases others
    · rintro piece others rfl hasOthers
      cases isCut with
      | last absent => exact (hasOthers rfl).elim
      | next first rest =>
          rw [rest.intercalate_eq]
          exact replace_first_of_isFirstOccurrence nonempty first replacement
  · intro everywhere side result
    have replaced := replace_at_isReplacedAt everywhere side pattern replacement value
    constructor
    · intro rest joined
      exact replaced.unique (Or.inl ⟨rest, joined.symm, rfl⟩)
    · intro absent
      exact replaced.unique (Or.inr ⟨fun rest joined => absent rest joined.symm, rfl⟩)
  · intro everywhere side?
    exact (isReplaced_replace nonempty (.ofFlags everywhere side?) pattern value).eq_of_self
  · intro hasCharacters disjoint result
    have absent := not_isInfix_replace_all nonempty hasCharacters disjoint value
    exact ⟨absent, replace_of_not_isInfix nonempty absent .all replacement⟩

/-- Occurrences of `aa` in `aaa` overlap: the leftmost one counts, or the one at the end. -/
theorem replace_of_isCutInto_overlapping :
    let pattern := ['a', 'a']
    let value := ['a', 'a', 'a']
    replace .all pattern ['b'] value = ['b', 'a'] ∧
      replace .first pattern ['b'] value = ['b', 'a'] ∧
      replace .atEnd pattern ['b'] value = ['a', 'b'] ∧
      replace .all pattern ['b'] ['b', 'a'] = ['b', 'a'] := by
  intro pattern value
  have absent : ¬ pattern <:+: ['a'] := by decide
  have isCut : Text.IsCutInto pattern value [[], ['a']] :=
    .next (Text.isFirstOccurrence_of_prefix pattern ['a']) (.last absent)
  rcases @replace_of_isCutInto pattern (by decide) ['b'] value with ⟨_, cut, atEnd, _, again⟩
  rcases cut _ isCut with ⟨_, all, _, first⟩
  have disjoint : List.Disjoint ['b'] pattern := by simp [pattern]
  have others := (again (by decide) disjoint).2
  rw [all] at others
  exact ⟨all, first _ _ rfl (by decide), (atEnd false .trailing).1 ['a'] rfl, others⟩

end Laws

/-! ## Replacing by nothing -/

/-- Replacing by nothing at one end is removing what is there. -/
theorem isReplacedAt_nil_iff
    {side : Glob.Side} {part value result : Text} :
    IsReplacedAt side part [] value result ↔ Glob.IsRemoved side part value result := by
  have joinNil : ∀ rest, side.join [] rest = rest := by
    intro rest
    cases side with
    | leading => exact List.nil_append rest
    | trailing => exact List.append_nil rest
  refine or_congr_left ⟨?_, ?_⟩
  · rintro ⟨rest, joined, rfl⟩
    rwa [joinNil]
  · intro joined
    exact ⟨result, joined, (joinNil result).symm⟩

/--
Removing a quoted text from one end of a value, shortest or longest, is replacing it by nothing
there.  The same holds for a text that is not quoted, if it has no special characters.
-/
theorem remove_compile_eq_replace_nil
    (side : Glob.Side)
    (longest everywhere : Bool)
    (part value : Text) :
    Glob.remove side longest (Glob.compile [⟨part, false⟩]) value =
      replace (.ofFlags everywhere (some side)) part [] value ∧
    ((∀ c ∈ part, c ∉ ['*', '?', '[']) →
      Glob.remove side longest (Glob.compile [⟨part, true⟩]) value =
        replace (.ofFlags everywhere (some side)) part [] value) := by
  have replaced := replace_at_isReplacedAt everywhere side part [] value
  have removed := Glob.isRemoved_remove_compile_inactive side longest part value
  have same := removed.unique (isReplacedAt_nil_iff.mp replaced)
  refine ⟨same, ?_⟩
  intro plain
  rw [Glob.compile_active_of_not_special plain]
  exact same

/-- A closing bracket alone is not special, and it is cut off once. -/
theorem remove_compile_eq_replace_nil_closing_bracket :
    Glob.remove .trailing true (Glob.compile [⟨[']'], true⟩]) ['a', ']', ']'] = ['a', ']'] ∧
      replace .atEnd [']'] [] ['a', ']', ']'] = ['a', ']'] := by
  have plain : ∀ c ∈ [']'], c ∉ ['*', '?', '['] := List.forall_mem_singleton.mpr (by decide)
  have same := (remove_compile_eq_replace_nil .trailing true false [']'] ['a', ']', ']']).2 plain
  exact ⟨same, rfl⟩

end ParameterExpansion.Expansion
