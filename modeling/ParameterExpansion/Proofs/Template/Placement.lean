import ParameterExpansion.Proofs.Template.Parsing
import ParameterExpansion.Proofs.Template.Tree

/-!
# Where texts stand

The words of an operation are cut out of a body, and bodies out of a text, without changing anything
in them.  So each of them stands in what it was cut from, one character after the other.
-/

namespace ParameterExpansion.Template

/-! ## Words stand in their body -/

theorem isInfix_of_mem_readReplacement
    {scope : Scope} {text word : Text}
    (member : word ∈ (readReplacement scope text).words) :
    word <:+: text := by
  rw [readReplacement, splitFree] at member
  cases cut : cutAtSeparator? '/' [] text with
  | none =>
      simp only [cut, Operation.mem_words_replace_iff] at member
      rcases member with rfl | rfl
      · exact List.infix_refl word
      · exact List.nil_infix
  | some parts =>
      rcases parts with ⟨pattern, replacement⟩
      have whole : text = pattern ++ '/' :: replacement := append_of_cutAtSeparator? cut
      simp only [cut, Operation.mem_words_replace_iff] at member
      rw [whole]
      rcases member with rfl | rfl
      · exact (List.prefix_append word _).isInfix
      · exact ⟨pattern ++ ['/'], [], by simp⟩

theorem isSuffix_of_mem_readPresence?
    {colon : Bool} {text word : Text} {operation : Operation Text}
    (read : readPresence? colon text = some operation)
    (member : word ∈ operation.words) :
    word <:+ text := by
  unfold readPresence? at read
  split at read
  case h_6 => cases read
  all_goals cases read
  case h_4 => cases member
  all_goals
    obtain rfl := List.mem_singleton.mp member
    exact List.suffix_cons _ _

theorem isInfix_of_mem_readOperation
    {expansion text word : Text} {operation : Operation Text}
    (read : readOperation expansion text = .ok operation)
    (member : word ∈ operation.words) :
    word <:+: text := by
  have behind (first : Char) {rest : Text} (inside : word <:+: rest) : word <:+: first :: rest :=
    inside.trans (List.suffix_cons first rest).isInfix
  unfold readOperation at read
  split at read
  case h_6 rest =>
    split at read
    · rename_i presence
      cases read
      exact behind ':' (isSuffix_of_mem_readPresence? presence member).isInfix
    · split at read
      · cases read
      · rw [words_readSubstring read] at member
        cases member
  case h_15 =>
    split at read
    · rename_i presence
      cases read
      exact (isSuffix_of_mem_readPresence? presence member).isInfix
    · cases read
  all_goals cases read
  case h_7 | h_8 | h_9 =>
    exact behind _ (behind _ (isInfix_of_mem_readReplacement member))
  case h_10 => exact behind _ (isInfix_of_mem_readReplacement member)
  case h_11 | h_13 =>
    obtain rfl := List.mem_singleton.mp member
    exact behind _ (behind _ (List.infix_refl word))
  case h_12 | h_14 =>
    obtain rfl := List.mem_singleton.mp member
    exact behind _ (List.infix_refl word)
  all_goals cases member

theorem isInfix_of_mem_readNamed
    {body word : Text} {name : Name} {operation : Operation Text}
    (read : readNamed body = .ok (name, operation))
    (member : word ∈ operation.words) :
    word <:+: body := by
  unfold readNamed at read
  split at read
  · cases read
  · rename_i found rest isRead
    rcases (bind_eq_ok_iff _ _ _).mp read with ⟨inner, readInner, same⟩
    cases same
    rw [(eq_of_readName? isRead).1]
    have inside := isInfix_of_mem_readOperation readInner member
    exact inside.trans (List.suffix_append name rest).isInfix

/-- The words that are cut out of a body stand in it. -/
theorem isInfix_of_mem_readBody
    {body word : Text} {name : Name} {operation : Operation Text}
    (read : readBody body = .ok (name, operation))
    (member : word ∈ operation.words) :
    word <:+: body := by
  unfold readBody at read
  split at read
  · split at read
    · cases read
      cases member
    · exact isInfix_of_mem_readNamed read member
  · exact isInfix_of_mem_readNamed read member

/-! ## Expansions stand in their text -/

theorem isInfix_enclose (body : Text) :
    body <:+: enclose body := by
  exact ⟨['$', '{'], ['}'], rfl⟩

/-- An expansion among the lexemes of a text stands in the text. -/
theorem Lexes.isInfix_of_mem
    {escapes : Bool} {text body : Text} {lexemes : List Lexeme}
    (lexes : Lexes escapes text lexemes)
    (member : .expansion body ∈ lexemes) :
    enclose body <:+: text := by
  rcases List.append_of_mem member with ⟨before, after, rfl⟩
  rw [← lexes.spelling]
  exact ⟨before.flatMap Lexeme.spelling, after.flatMap Lexeme.spelling,
    by simp [Lexeme.spelling, enclose]⟩

end ParameterExpansion.Template
