import ParameterExpansion.Template.Operation
import ParameterExpansion.Text.Occurrence

/-!
# Replacement of literal text

A replacement concerns the first occurrence of a pattern, all occurrences, or only one at the start
or at the end of a value.  An empty pattern occurs nowhere but at the two ends.
-/

namespace ParameterExpansion.Expansion

open Template

/-- Replace a pattern at the start of a value. -/
def replaceAtStart (pattern replacement value : Text) : Text :=
  if pattern.isPrefixOf value then replacement ++ value.drop pattern.length else value

/-- Replace a pattern at the end of a value. -/
def replaceAtEnd (pattern replacement value : Text) : Text :=
  if pattern.isSuffixOf value then value.take (value.length - pattern.length) ++ replacement
  else value

/-- Replace the occurrences of a pattern in a value that a scope names. -/
def replace (scope : Scope) (pattern replacement value : Text) : Text :=
  match scope with
  | .atStart => replaceAtStart pattern replacement value
  | .atEnd => replaceAtEnd pattern replacement value
  | .all => if pattern.isEmpty then value else value.replaceAll pattern replacement
  | .first => if pattern.isEmpty then value else value.replaceFirst pattern replacement

end ParameterExpansion.Expansion
