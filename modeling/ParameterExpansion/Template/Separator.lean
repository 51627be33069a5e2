import ParameterExpansion.Template.Brace

/-!
# Separators

A separator divides text where it is neither quoted nor inside an inner expansion.  An inner
expansion that is never closed leaves nothing to divide.
-/

namespace ParameterExpansion.Template

/--
Cut text at the first free separator.  `passed` holds the characters passed, the last first.
-/
def cutAtSeparator? (separator : Char) (passed : Text) (text : Text) : Option (Text × Text) :=
  match text with
  | [] => none
  | ['\\'] => none
  | '\\' :: c :: rest => cutAtSeparator? separator (c :: '\\' :: passed) rest
  | '$' :: '$' :: rest => cutAtSeparator? separator ('$' :: '$' :: passed) rest
  | '$' :: '{' :: rest =>
    match closed : closeBody? rest with
    | none => none
    | some (body, after) =>
      have := length_of_closeBody? closed
      cutAtSeparator? separator ('}' :: body.reverse ++ '{' :: '$' :: passed) after
  | c :: rest =>
    if c = separator then some (passed.reverse, rest)
    else cutAtSeparator? separator (c :: passed) rest
termination_by text.length

/-- A cut loses the separator and nothing else. -/
theorem append_of_cutAtSeparator?
    {separator : Char} {passed text head tail : Text}
    (cut : cutAtSeparator? separator passed text = some (head, tail)) :
    passed.reverse ++ text = head ++ separator :: tail := by
  fun_induction cutAtSeparator? separator passed text with
  | case1 => simp at cut
  | case2 => simp at cut
  | case3 _ _ _ ih => simpa using ih cut
  | case4 _ _ ih => simpa using ih cut
  | case5 => simp at cut
  | case6 _ rest body after closed _ ih =>
    have whole := eq_of_closeBody? closed
    have := ih cut
    simp_all
  | case7 _ rest =>
    obtain ⟨rfl, rfl⟩ : _ ∧ rest = tail := by simpa using cut
    rfl
  | case8 => rename_i ih; simpa using ih cut

/-- The text before the first free separator and the text after it, if there is one. -/
def splitFree (separator : Char) (text : Text) : Text × Option Text :=
  match cutAtSeparator? separator [] text with
  | none => (text, none)
  | some (head, tail) => (head, some tail)

/-- Neither part of a split is longer than the text. -/
theorem length_le_of_splitFree
    {separator : Char} {text head : Text} {tail? : Option Text}
    (parts : splitFree separator text = (head, tail?)) :
    head.length ≤ text.length ∧ (tail?.getD []).length ≤ text.length := by
  unfold splitFree at parts
  split at parts
  · obtain ⟨rfl, rfl⟩ : text = head ∧ none = tail? := by simpa using parts
    simp
  · rename_i first second cut
    have whole := append_of_cutAtSeparator? cut
    obtain ⟨rfl, rfl⟩ : first = head ∧ some second = tail? := by simpa using parts
    simp only [List.reverse_nil, List.nil_append] at whole
    simp only [whole, List.length_append, List.length_cons, Option.getD_some]
    omega

end ParameterExpansion.Template
