import ParameterExpansion.Proofs.Expansion.Replacing
import ParameterExpansion.Proofs.Expansion.WrittenExpansion

/-!
# Quoted text stands for itself

A default, a pattern and a replacement that are quoted character by character stand for their text,
whatever characters they consist of: a quoted default is expanded to it, a quoted pattern is removed
where the value has it, and a quoted replacement takes the place of the occurrences of a quoted
pattern.
-/

namespace ParameterExpansion.Expansion

open Template

/-! ## Quoted words -/

theorem expandWord_quotedWord (text : Text) :
    expandWord (quotedWord text) = .answer text := by
  rw [expandWord_eq, quotedWord, List.mapM_map]
  show List.flatten <$> text.mapM (fun c => (pure [c] : Dialogue Text)) = _
  rw [List.mapM_pure, map_pure, ← List.flatMap_def, List.flatMap_singleton']
  rfl

/-- The pieces of a quoted pattern are its characters, and none of them is special. -/
theorem expandPattern_quotedWord (text : Text) :
    expandPattern (quotedWord text) = .answer (text.map fun c => ⟨[c], false⟩) := by
  rw [expandPattern_eq, quotedWord, List.mapM_map]
  show text.mapM (fun c => (pure ⟨[c], false⟩ : Dialogue Glob.Piece)) = _
  rw [List.mapM_pure]
  rfl

theorem compile_quoted (text : Text) :
    Glob.compile (text.map fun c => ⟨[c], false⟩) = text.map .literal := by
  rw [Glob.compile_of_inactive (by simp)]
  simp [List.flatMap_map]

/-! ## Expansions with quoted words -/

/-- A single expansion with this body, if it is not too long, gives a text of which this holds. -/
def ExpandsTo
    {State : Type}
    (limits : Limits)
    (mode : Mode)
    (source : Source State)
    (state : State)
    (body : Text)
    (holds : Text → Prop) : Prop :=
  (enclose body).length ≤ limits.size →
    ∃ result, (expand limits mode source (enclose body) state).outcome = .ok result ∧ holds result

section Single

variable {State : Type} {limits : Limits} {name : Name} {mode : Mode} {source : Source State}
  {state : State}

theorem expandsTo_fallback_quoteEach
    (isName : IsName name)
    (nests : 1 ≤ limits.nesting)
    (missing : (source name state).1.value? = none)
    (colon : Bool)
    (sign : DefaultSign)
    (text : Text) :
    ExpandsTo limits mode source state
      (writeBody name (.fallback colon sign (quoteEach text))) (· = text) := by
  intro fits
  have parsed := parseWord_quoteEach nests text
  refine ⟨text, ?_, rfl⟩
  rw [outcome_expand_fallback isName (balanced_quoteEach text) parsed nests fits missing,
    expandWord_quotedWord, Dialogue.run_answer]

theorem expandsTo_remove_quoteEach
    {value : Text}
    (isName : IsName name)
    (nests : 1 ≤ limits.nesting)
    (present : (source name state).1.value? = some value)
    (side : Glob.Side)
    (longest : Bool)
    (text : Text) :
    ExpandsTo limits mode source state
      (writeBody name (.remove side longest (quoteEach text)))
      (Glob.IsRemoved side text value) := by
  intro fits
  have fragmented := isFragmented_remove_quoteEach side longest text
  have parsed := parseWord_quoteEach nests text
  refine ⟨_, ?_, Glob.isRemoved_remove_map_literal side longest text value⟩
  rw [outcome_expand_remove isName fragmented parsed nests fits present, expandPattern_quotedWord,
    Dialogue.run_answer, ← compile_quoted]
  rfl

theorem expandsTo_replace_quoteEach
    {text value : Text}
    (isName : IsName name)
    (nests : 1 ≤ limits.nesting)
    (present : (source name state).1.value? = some value)
    (nonempty : text ≠ [])
    (scope : Scope)
    (replacement : Text) :
    ExpandsTo limits mode source state
      (dividedBody name scope text replacement)
      (IsReplaced scope text replacement value) := by
  intro fits
  obtain ⟨raw, parsed⟩ := parseText_replace_quoteEach isName nonempty nests fits
  refine ⟨_, ?_, isReplaced_replace nonempty scope replacement value⟩
  rw [expand_of_parseText_eq_ok parsed, expandWord_singleton, expandPart, expandOperation,
    Dialogue.outcome_run_ask fun _ => Reply.isSet_of_value? present, present, ← expandWord, ← expandWord,
    expandWord_quotedWord, expandWord_quotedWord]
  rfl

end Single

/--
Quoted text is literal inside an expansion.  As the default of a variable that is not set, it is
what the expansion gives.  As a pattern, it is removed from the side of a value where it stands, and
the value stays as it is where it does not stand; if it is not empty, its occurrences that the scope
names are replaced by the text that is quoted as the replacement.
-/
theorem expandsTo_quoted
    {State : Type} {limits : Limits} {name : Name}
    (isName : IsName name)
    (nests : 1 ≤ limits.nesting)
    (mode : Mode)
    (source : Source State)
    (state : State)
    (text replacement : Text) :
    ((source name state).1.value? = none →
      ExpandsTo limits mode source state
        (writeBody name (.fallback true .minus (quoteEach text))) (· = text)) ∧
    ∀ value, (source name state).1.value? = some value →
      (∀ side longest,
        ExpandsTo limits mode source state
          (writeBody name (.remove side longest (quoteEach text)))
          (Glob.IsRemoved side text value)) ∧
      (text ≠ [] → ∀ scope,
        ExpandsTo limits mode source state
          (dividedBody name scope text replacement)
          (IsReplaced scope text replacement value)) := by
  constructor
  · intro missing
    exact expandsTo_fallback_quoteEach isName nests missing true .minus text
  · intro value present
    constructor
    · intro side longest
      exact expandsTo_remove_quoteEach isName nests present side longest text
    · intro nonempty scope
      exact expandsTo_replace_quoteEach isName nests present nonempty scope replacement

/-- Closing braces, dollars, stars and slashes that are quoted do nothing. -/
theorem expandsTo_quoted_signs :
    (expand {} .strict (Store.asSource ⟨[]⟩)
      (enclose ['x', ':', '-', '\\', '$', '\\', '}']) ()).outcome = .ok ['$', '}'] ∧
    (expand {} .strict (Store.asSource ⟨[(['x'], ['*', '/', 'a', '*', '/'])]⟩)
      (enclose ['x', '#', '\\', '*', '\\', '/']) ()).outcome = .ok ['a', '*', '/'] ∧
    (expand {} .strict (Store.asSource ⟨[(['x'], ['*', '/', 'a', '*', '/'])]⟩)
      (enclose ['x', '/', '/', '\\', '*', '\\', '/', '/', '\\', '}']) ()).outcome =
        .ok ['}', 'a', '}'] := by
  have isName : IsName ['x'] := by decide
  have nests : 1 ≤ ({} : Limits).nesting := by decide
  have fallback :=
    (expandsTo_quoted isName nests .strict (Store.asSource ⟨[]⟩) () ['$', '}'] []).1 rfl
  have others :=
    (expandsTo_quoted isName nests .strict
      (Store.asSource ⟨[(['x'], ['*', '/', 'a', '*', '/'])]⟩) () ['*', '/'] ['}']).2 _ rfl
  obtain ⟨_, expandedDefault, rfl⟩ := fallback (by decide)
  obtain ⟨_, expandedRemoval, removed⟩ := others.1 .leading false (by decide)
  obtain ⟨_, expandedReplacement, replaced⟩ := others.2 (by decide) .all (by decide)
  refine ⟨expandedDefault, ?_, ?_⟩
  · have isRemoved :
        Glob.IsRemoved .leading ['*', '/'] ['*', '/', 'a', '*', '/'] ['a', '*', '/'] :=
      Or.inl rfl
    obtain rfl := removed.unique isRemoved
    exact expandedRemoval
  · have firstCut := Text.isFirstOccurrence_of_prefix ['*', '/'] ['a', '*', '/']
    have secondCut : Text.IsFirstOccurrence ['*', '/'] ['a', '*', '/'] ['a'] [] :=
      (Text.isFirstOccurrence_of_prefix ['*', '/'] []).cons (by decide)
    have isCut : Text.IsCutInto ['*', '/'] ['*', '/', 'a', '*', '/'] [[], ['a'], []] :=
      .next firstCut (.next secondCut (.last (by decide)))
    obtain rfl : _ = ['}', 'a', '}'] := replaced.unique ⟨_, isCut, rfl⟩
    exact expandedReplacement

end ParameterExpansion.Expansion
