import ParameterExpansion.Template.Operation

/-!
# Words

A word is a list of parts, and expanding it joins what the parts expand to.  A template is a word;
defaults, alternatives, messages, patterns and replacements are words inside it.
-/

namespace ParameterExpansion.Template

/--
A part of a word: literal text, a quoted character, or an expansion with its name, its operation and
the text it was read from.
-/
inductive Part where
  | literal (text : Text)
  | escaped (text : Text)
  | expansion (name : Name) (operation : Operation (List Part)) (raw : Text)

/-- A list of parts, expanded one after the other. -/
abbrev Word := List Part

end ParameterExpansion.Template
