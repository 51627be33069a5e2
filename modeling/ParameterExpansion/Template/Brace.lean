import ParameterExpansion.Text.Basic

/-!
# The brace that closes an expansion

An expansion's body ends at the closing brace that is left when quoted characters, dollar pairs and
inner expansions are passed over.  The main statement says that the two parts of a cut, with that
brace between them, make up the text.
-/

namespace ParameterExpansion.Template

/--
Cut text inside a body at the brace that closes it.  `depth` counts the inner expansions that are
open, and `passed` holds the characters passed, the last first.
-/
def cutAtBrace? (depth : Nat) (passed : Text) : Text → Option (Text × Text)
  | [] => none
  | '\\' :: c :: rest => cutAtBrace? depth (c :: '\\' :: passed) rest
  | '$' :: '$' :: rest => cutAtBrace? depth ('$' :: '$' :: passed) rest
  | '$' :: '{' :: rest => cutAtBrace? (depth + 1) ('{' :: '$' :: passed) rest
  | '}' :: rest =>
    match depth with
    | 0 => some (passed.reverse, rest)
    | outer + 1 => cutAtBrace? outer ('}' :: passed) rest
  | c :: rest => cutAtBrace? depth (c :: passed) rest

/-- A cut loses the closing brace and nothing else. -/
theorem append_of_cutAtBrace?
    {depth : Nat} {passed text body after : Text}
    (cut : cutAtBrace? depth passed text = some (body, after)) :
    passed.reverse ++ text = body ++ '}' :: after := by
  fun_induction cutAtBrace? depth passed text with
  | case1 => simp at cut
  | case2 _ _ _ _ ih => simpa using ih cut
  | case3 _ _ _ ih => simpa using ih cut
  | case4 _ _ _ ih => simpa using ih cut
  | case5 _ _ =>
    obtain ⟨rfl, rfl⟩ : _ ∧ _ = after := by simpa using cut
    rfl
  | case6 _ _ _ ih => simpa using ih cut
  | case7 => rename_i ih; simpa using ih cut

/-- An expansion's body and the text after its closing brace. -/
def closeBody? (text : Text) : Option (Text × Text) :=
  cutAtBrace? 0 [] text

/-- Body, closing brace and the text after it make up the text. -/
theorem eq_of_closeBody?
    {text body after : Text}
    (closed : closeBody? text = some (body, after)) :
    text = body ++ '}' :: after := by
  simpa using append_of_cutAtBrace? closed

/-- The lengths of the two parts of a closed body. -/
theorem length_of_closeBody?
    {text body after : Text}
    (closed : closeBody? text = some (body, after)) :
    text.length = body.length + after.length + 1 := by
  rw [eq_of_closeBody? closed, List.length_append, List.length_cons]
  omega

/-- The position of the brace that closes an expansion whose body starts at a given position. -/
def closingBrace? (text : Text) (start : Nat) : Option Nat :=
  (closeBody? (text.drop start)).map fun (body, _) => start + body.length

end ParameterExpansion.Template
