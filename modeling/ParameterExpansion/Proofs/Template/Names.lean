import ParameterExpansion.Template.Word

/-!
# Names in a word

The names of the parameters of a word, each expansion's own name before those in its words.
-/

namespace ParameterExpansion.Template

mutual

/-- The names in a part. -/
def partNames : Part → List Name
  | .literal _ => []
  | .escaped _ => []
  | .expansion name operation _ => name :: operationNames operation

/-- The names in the words of an operation. -/
def operationNames : Operation (List Part) → List Name
  | .value | .length | .changeCase _ _ | .substring _ _ | .orFail _ => []
  | .fallback _ _ word => wordNames word
  | .alternative _ word => wordNames word
  | .orFailWith _ message => wordNames message
  | .remove _ _ pattern => wordNames pattern
  | .replace _ pattern replacement => wordNames pattern ++ wordNames replacement

/-- The names in a word. -/
def wordNames : List Part → List Name
  | [] => []
  | part :: rest => partNames part ++ wordNames rest

end

end ParameterExpansion.Template
