import ParameterExpansion.Proofs.Expansion.Concatenation
import ParameterExpansion.Proofs.Template.QuotedText

/-!
# Expanding an expansion that was written

A template that is one expansion, written from a name and an operation on texts, is expanded as that
operation on the words that the texts are parsed as.  For the operations whose meaning depends on
whether the variable is set, and for removals, this gives the outcome from what the source replies.
-/

namespace ParameterExpansion.Expansion

open Template

section Written

variable {State : Type} {limits : Limits} {name : Name} {text : Text} {word : Word} {mode : Mode}
  {source : Source State} {state : State}

theorem expand_writeBody
    {written : Operation Text} {operation : Operation (List Part)}
    (isName : IsName name)
    (fragmented : written.IsFragmented)
    (related : Operation.Related
      (fun text word => parseWord limits true 1 text = .ok word) written operation)
    (nests : 1 ≤ limits.nesting)
    (fits : (enclose (writeBody name written)).length ≤ limits.size) :
    expand limits mode source (enclose (writeBody name written)) state =
      (expandOperation name (enclose (writeBody name written)) operation).run mode source state := by
  have parsed := parseText_writeBody isName fragmented related nests fits
  rw [expand_of_parseText_eq_ok parsed, expandWord_singleton, expandPart]

/-- A plain expansion of a variable that is set is its value. -/
theorem outcome_expand_value
    {value : Text}
    (isName : IsName name)
    (nests : 1 ≤ limits.nesting)
    (fits : (enclose (writeBody name .value)).length ≤ limits.size)
    (present : (source name state).1.value? = some value) :
    (expand limits mode source (enclose (writeBody name .value)) state).outcome = .ok value := by
  have fragmented : (Operation.value : Operation Text).IsFragmented :=
    ⟨True.intro, by simp [Operation.EachWord, Operation.words]⟩
  rw [expand_writeBody isName fragmented .value nests fits, expandOperation,
    Dialogue.outcome_run_ask fun _ => Reply.isSet_of_value? present, present]
  rfl

/-- A default is expanded for a variable that is not set. -/
theorem outcome_expand_fallback
    {colon : Bool} {sign : DefaultSign}
    (isName : IsName name)
    (balanced : Balanced text)
    (parsed : parseWord limits true 1 text = .ok word)
    (nests : 1 ≤ limits.nesting)
    (fits : (enclose (writeBody name (.fallback colon sign text))).length ≤ limits.size)
    (missing : (source name state).1.value? = none) :
    (expand limits mode source (enclose (writeBody name (.fallback colon sign text))) state).outcome =
      ((expandWord word).run mode source (source name state).2).outcome := by
  have fragmented : (Operation.fallback colon sign text).IsFragmented :=
    ⟨True.intro, holds_of_mem_singleton balanced⟩
  rw [expand_writeBody isName fragmented (.fallback colon sign parsed) nests fits, expandOperation,
    Dialogue.outcome_run_ask (by simp), missing]
  rfl

/-- An alternative is expanded for a variable that is set. -/
theorem outcome_expand_alternative
    {colon : Bool} {value : Text}
    (isName : IsName name)
    (balanced : Balanced text)
    (parsed : parseWord limits true 1 text = .ok word)
    (nests : 1 ≤ limits.nesting)
    (fits : (enclose (writeBody name (.alternative colon text))).length ≤ limits.size)
    (present : (source name state).1.value? = some value) :
    (expand limits mode source (enclose (writeBody name (.alternative colon text))) state).outcome =
      ((expandWord word).run mode source (source name state).2).outcome := by
  have fragmented : (Operation.alternative colon text).IsFragmented :=
    ⟨True.intro, holds_of_mem_singleton balanced⟩
  rw [expand_writeBody isName fragmented (.alternative colon parsed) nests fits, expandOperation,
    Dialogue.outcome_run_ask (by simp), present]
  rfl

theorem outcome_expand_orFail
    {colon : Bool}
    (isName : IsName name)
    (nests : 1 ≤ limits.nesting)
    (fits : (enclose (writeBody name (.orFail colon))).length ≤ limits.size)
    (missing : (source name state).1.value? = none) :
    (expand limits mode source (enclose (writeBody name (.orFail colon))) state).outcome =
      .error (.parameterUnset name []) := by
  have fragmented : (Operation.orFail colon : Operation Text).IsFragmented :=
    ⟨True.intro, by simp [Operation.EachWord, Operation.words]⟩
  rw [expand_writeBody isName fragmented (.orFail colon) nests fits, expandOperation,
    Dialogue.outcome_run_ask (by simp), missing]
  rfl

/-- A message is expanded for a variable that is not set, and is then the detail of the failure. -/
theorem outcome_expand_orFailWith
    {colon : Bool}
    (isName : IsName name)
    (balanced : Balanced text)
    (parsed : parseWord limits true 1 text = .ok word)
    (nests : 1 ≤ limits.nesting)
    (fits : (enclose (writeBody name (.orFailWith colon text))).length ≤ limits.size)
    (missing : (source name state).1.value? = none) :
    (expand limits mode source (enclose (writeBody name (.orFailWith colon text))) state).outcome =
      ((expandWord word).run mode source (source name state).2).outcome.bind
        fun message => .error (.parameterUnset name message) := by
  by_cases empty : text = []
  · -- With an empty message the operator is read as the one that has none.
    subst empty
    obtain rfl := (eq_nil_iff_of_parseWord parsed).mpr rfl
    exact outcome_expand_orFail isName nests fits missing
  · have fragmented : (Operation.orFailWith colon text).IsFragmented :=
      ⟨empty, holds_of_mem_singleton balanced⟩
    rw [expand_writeBody isName fragmented (.orFailWith colon parsed) nests fits, expandOperation,
      Dialogue.outcome_run_ask (by simp), missing]
    show ((expandWord word >>= _).run mode source _).outcome = _
    rw [Dialogue.run_bind, Run.outcome_andThen]
    rfl

/-- A pattern is expanded and then removed from the value of a variable that is set. -/
theorem outcome_expand_remove
    {side : Glob.Side} {longest : Bool} {value : Text}
    (isName : IsName name)
    (fragmented : (Operation.remove side longest text).IsFragmented)
    (parsed : parseWord limits true 1 text = .ok word)
    (nests : 1 ≤ limits.nesting)
    (fits : (enclose (writeBody name (.remove side longest text))).length ≤ limits.size)
    (present : (source name state).1.value? = some value) :
    (expand limits mode source (enclose (writeBody name (.remove side longest text))) state).outcome =
      ((expandPattern word).run mode source (source name state).2).outcome.map
        fun pieces => Glob.remove side longest (Glob.compile pieces) value := by
  rw [expand_writeBody isName fragmented (.remove side longest parsed) nests fits, expandOperation,
    Dialogue.outcome_run_ask fun _ => Reply.isSet_of_value? present, present]
  show (((fun pieces => Glob.remove side longest (Glob.compile pieces) value) <$>
    expandPattern word).run mode source _).outcome = _
  rw [Dialogue.run_map]

end Written

end ParameterExpansion.Expansion
