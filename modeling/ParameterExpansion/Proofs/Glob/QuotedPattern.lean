import ParameterExpansion.Proofs.Glob.Removal

/-!
# Patterns without special characters

Inactive pieces make a pattern that stands for their text and for no other, and so does active text
that holds no special characters.  Removing it, shortest or longest, cuts that text off, if the value
has it at that end.
-/

namespace ParameterExpansion.Glob

/-- What is left of a value without a part at one end, or the value if it has no such part there. -/
def IsRemoved (side : Side) (part value rest : Text) : Prop :=
  side.join part rest = value ∨ (∀ other, side.join part other ≠ value) ∧ rest = value

theorem Side.eq_of_join_eq_join
    {side : Side} {part left right : Text}
    (same : side.join part left = side.join part right) :
    left = right := by
  cases side with
  | leading => exact List.append_cancel_left same
  | trailing => exact List.append_cancel_right same

/-- Only one text is left of a value. -/
theorem IsRemoved.unique
    {side : Side} {part value left right : Text}
    (removed : IsRemoved side part value left)
    (removed' : IsRemoved side part value right) :
    left = right := by
  rcases removed with joined | ⟨absent, rfl⟩
  · rcases removed' with joined' | ⟨absent, _⟩
    · exact Side.eq_of_join_eq_join (joined.trans joined'.symm)
    · exact (absent left joined).elim
  · rcases removed' with joined' | ⟨_, rfl⟩
    · exact (absent right joined').elim
    · rfl

theorem matches_map_literal_iff (own text : Text) :
    Matches (own.map .literal) text ↔ text = own := by
  induction own generalizing text with
  | nil => exact matches_nil_iff text
  | cons c own ih =>
      have single : Token.literal c ≠ .star := by simp
      rw [List.map_cons]
      cases text with
      | nil => simpa using not_matches_nil_of_ne_star single _
      | cons first rest =>
          rw [matches_cons_cons_iff_of_ne_star single, ih]
          simp [Token.contains]

/-- Removing a pattern of literal characters cuts off their text, if it is there. -/
theorem isRemoved_remove_map_literal
    (side : Side)
    (longest : Bool)
    (own value : Text) :
    IsRemoved side own value (remove side longest (own.map .literal) value) := by
  rcases remove_isTrimmed side longest (own.map .literal) value with
    ⟨part, joined, matched, _⟩ | ⟨empty, same⟩
  · rw [matches_map_literal_iff] at matched
    subst matched
    exact Or.inl joined
  · refine Or.inr ⟨?_, same⟩
    intro other joined
    have matched := (matches_map_literal_iff own own).mpr rfl
    have member : own.length ∈ partLengths side (own.map .literal) value :=
      ⟨own, other, joined, matched, rfl⟩
    rw [empty] at member
    exact member

theorem foldr_prepend_map_literal (text : Text) (rest : List Token) :
    (text.map Token.literal).foldr prepend rest = text.map .literal ++ rest := by
  induction text with
  | nil => rfl
  | cons c text ih =>
      rw [List.map_cons, List.foldr_cons, ih]
      rfl

/-- Inactive pieces make a pattern of the literal characters of their texts. -/
theorem compile_of_inactive
    {pieces : List Piece}
    (inactive : ∀ piece ∈ pieces, piece.active = false) :
    compile pieces = (pieces.flatMap Piece.text).map .literal := by
  have tokens : pieces.flatMap Piece.tokens = (pieces.flatMap Piece.text).map .literal := by
    rw [List.map_flatMap]
    apply List.flatMap_congr
    intro piece member
    rw [Piece.tokens, inactive piece member]
    rfl
  rw [compile, tokens, foldr_prepend_map_literal, List.append_nil]

theorem readTokens_of_not_special
    {text : Text}
    (plain : ∀ c ∈ text, c ∉ ['*', '?', '['])
    (done : List Token) :
    readTokens done text = done.reverse ++ text.map .literal := by
  induction text generalizing done with
  | nil => rw [readTokens, List.map_nil, List.append_nil]
  | cons c rest ih =>
      rcases List.forall_mem_cons.mp plain with ⟨notSpecial, plainRest⟩
      simp only [List.mem_cons, List.not_mem_nil, or_false, not_or] at notSpecial
      rcases notSpecial with ⟨notStar, notAny, notBracket⟩
      rw [readTokens, ih plainRest, List.reverse_cons, List.append_assoc, List.singleton_append,
        List.map_cons]
      all_goals assumption

/-- Active text without special characters is read as if it were inactive. -/
theorem compile_active_of_not_special
    {text : Text}
    (plain : ∀ c ∈ text, c ∉ ['*', '?', '[']) :
    compile [⟨text, true⟩] = compile [⟨text, false⟩] := by
  have tokens : Piece.tokens ⟨text, true⟩ = Piece.tokens ⟨text, false⟩ :=
    readTokens_of_not_special plain []
  rw [compile, compile, List.flatMap_singleton, List.flatMap_singleton, tokens]

/-- Removing an inactive piece cuts off its text, if it is there. -/
theorem isRemoved_remove_compile_inactive
    (side : Side)
    (longest : Bool)
    (part value : Text) :
    IsRemoved side part value (remove side longest (compile [⟨part, false⟩]) value) := by
  have literal : compile [⟨part, false⟩] = part.map .literal := by
    rw [compile_of_inactive (List.forall_mem_singleton.mpr rfl), List.flatMap_singleton]
  rw [literal]
  exact isRemoved_remove_map_literal side longest part value

end ParameterExpansion.Glob
