import ParameterExpansion.Proofs.Expansion.Concatenation
import ParameterExpansion.Proofs.Template.ClosingBrace
import ParameterExpansion.Proofs.Template.Reparsing
import ParameterExpansion.Proofs.Template.Rejection

/-!
# Failures point into the template

Whatever a failure of expansion says about the template can be found there.  An expansion that is
never closed is given by its position in the template, and an invalid expansion by its text, which
stands in the template and is closed at its end, at whatever depth it is.  The name of a variable or
a parameter that is not set is that of an expansion of the parsed template.
-/

namespace ParameterExpansion.Template

/-- The text stands in the template, and it is an expansion that is closed at the end of the text. -/
structure IsExpansionIn (template text : Text) : Prop where
  stands : text <:+: template
  opens : ['$', '{'] <+: text
  closes : closingBrace? text 2 = some (text.length - 1)

/-- A balanced body that stands with its braces in the template is an expansion in it. -/
theorem Balanced.isExpansionIn
    {template body : Text}
    (balanced : Balanced body)
    (stands : enclose body <:+: template) :
    IsExpansionIn template (enclose body) := by
  have whole : (enclose body).drop 0 = enclose body ++ [] := (List.append_nil _).symm
  have closes := balanced.closingBrace?_eq whole
  rw [Nat.zero_add, Nat.zero_add] at closes
  exact ⟨stands, ⟨body ++ ['}'], rfl⟩, closes⟩

/-- Every expansion of a parsed template, at any depth, has a name and stands in the template. -/
theorem isName_and_isExpansionIn_of_mem_wordExpansions
    {limits : Limits} {text : Text} {word : Word}
    {name : Name} {operation : Operation (List Part)} {raw : Text}
    (parsed : parseText limits text = .ok word)
    (member : .expansion name operation raw ∈ wordExpansions word) :
    IsName name ∧ IsExpansionIn text raw := by
  rcases parseText_eq_ok_iff.mp parsed with ⟨_, parsedWord⟩
  rcases exists_body_of_mem_wordExpansions parsedWord member with
    ⟨body, _, balanced, rfl, stands, _, _, parsedBody⟩
  rcases parseBody_eq_ok_iff.mp parsedBody with ⟨_, source, _, read, _, same⟩
  cases same
  exact ⟨(isFragmented_of_readBody read balanced).1, balanced.isExpansionIn stands⟩

end ParameterExpansion.Template

namespace ParameterExpansion.Expansion

open Template

/-- The name is that of an expansion, at any depth, of the parsed template. -/
def IsParameterOf (limits : Limits) (template : Text) (name : Name) : Prop :=
  ∃ word operation raw, parseText limits template = .ok word ∧
    .expansion name operation raw ∈ wordExpansions word

/--
What the failure says about the template is found in the template.  Only a caller states a failure in
words of its own.
-/
def PointsInto (limits : Limits) (template : Text) : Failure → Prop
  | .unterminated text position =>
      0 ≤ position ∧ position < template.length ∧ text = template.drop position.toNat ∧
        ['$', '{'] <+: text
  | .invalid text _ => IsExpansionIn template text
  | .variableNotSet name _ => IsName name ∧ IsParameterOf limits template name
  | .parameterUnset name _ => IsName name ∧ IsParameterOf limits template name
  | .limitExceeded _ | .numberTooLong _ | .numberUnwritable => True
  | .stated _ => False

theorem pointsInto_ofExcess
    (limits : Limits)
    (template : Text)
    (excess : Excess) :
    PointsInto limits template (.ofExcess excess) := by
  rcases Failure.ofExcess_cases excess with ⟨_, made⟩ | ⟨_, made⟩
  · rw [made]
    exact True.intro
  · rw [made]
    exact True.intro

/-- A template that cannot be parsed fails at a place in it. -/
theorem pointsInto_of_parseText
    {limits : Limits} {text : Text} {failure : Failure}
    (failed : parseText limits text = .error failure) :
    PointsInto limits text failure := by
  rcases cases_of_parseText_eq_error failed with
    rfl | rfl | unclosed | ⟨body, balanced, stands, ⟨fault, rfl⟩ | ⟨digits, rfl, _⟩⟩
  · exact pointsInto_ofExcess limits text _
  · exact pointsInto_ofExcess limits text _
  · rcases scan_eq_error_iff.mp unclosed with ⟨front, rest, rfl, _, rfl⟩
    refine ⟨Int.natCast_nonneg _, ?_, ?_, ⟨rest, rfl⟩⟩
    · rw [List.length_append, List.length_cons]
      omega
    · rw [Int.toNat_natCast, List.drop_left]
  · exact balanced.isExpansionIn stands
  · exact True.intro

/-- A parsed template fails at one of its expansions. -/
theorem pointsInto_of_run
    {State : Type} {limits : Limits} {text : Text} {word : Word} {mode : Mode}
    {source : Source State} {state : State} {failure : Failure}
    (parsed : parseText limits text = .ok word)
    (failed : ((expandWord word).run mode source state).outcome = .error failure) :
    PointsInto limits text failure := by
  have names {name : Name} {operation : Operation (List Part)} {raw : Text}
      (member : .expansion name operation raw ∈ wordExpansions word) :
      IsName name ∧ IsParameterOf limits text name :=
    ⟨(isName_and_isExpansionIn_of_mem_wordExpansions parsed member).1,
      word, operation, raw, parsed, member⟩
  rcases (isConfined word).fails.of_run failed with
    ⟨part, member, raises⟩ | ⟨_, question, asked, _, rfl⟩
  · cases raises with
    | orFail name colon raw => exact names member
    | orFailWith name colon message raw detail => exact names member
    | substring name offset raw negative =>
        exact (isName_and_isExpansionIn_of_mem_wordExpansions parsed member).2
  · rcases (isConfined word).asks.exists_isAskedAt asked with ⟨_, member, operation, raw, rfl, _⟩
    exact names member

/--
Whatever expanding a template fails with points into the template.  An expansion that is never closed
is given by a position in the template at which an opening mark stands, and by the text from there
on.  An invalid expansion, at whatever depth and whether it cannot be parsed or its length is
negative, is given by text of the template that starts with an opening mark and is closed at its end.
A variable or a parameter that is not set has the name of an expansion of the parsed template.
-/
theorem pointsInto_of_expand
    {State : Type} {limits : Limits} {mode : Mode} {source : Source State} {text : Text}
    {state : State} {failure : Failure}
    (failed : (expand limits mode source text state).outcome = .error failure) :
    PointsInto limits text failure := by
  cases parsed : parseText limits text with
  | ok word =>
      rw [expand_of_parseText_eq_ok parsed] at failed
      exact pointsInto_of_run parsed failed
  | error own =>
      rw [expand_of_parseText_eq_error parsed] at failed
      cases failed
      exact pointsInto_of_parseText parsed

/--
In `a${x:-${y: 0:-1}}` the expansion in the default is the one that is invalid if the value of its
variable is empty, and its variable is the one that is not set if it is not and that is insisted on.
-/
theorem pointsInto_of_expand_in_default :
    let inner := enclose ['y', ':', ' ', '0', ':', '-', '1']
    let text := 'a' :: enclose (['x', ':', '-'] ++ inner)
    IsExpansionIn text inner ∧ IsParameterOf {} text ['y'] := by
  intro inner text
  let word : Word :=
    [.literal ['a'],
      .expansion ['x'] (.fallback true .minus [.expansion ['y'] (.substring 0 (some (-1))) inner])
        (enclose (['x', ':', '-'] ++ inner))]
  have normal : NormalWord .top word := by
    have names : IsName ['x'] ∧ IsName ['y'] := by decide
    have readable : IsReadable 0 ∧ IsReadable (-1) := by decide
    simp [word, NormalWord, NormalPart, NormalOperation, Operation.IsDistinct, Place.Allows,
      Part.isLiteral, names, readable]
  have parsed : parseText {} text = .ok word :=
    parseText_eq_ok_iff.mpr ⟨by decide, parseWord_printWord normal (by decide)⟩
  let empty : Variables := ⟨[(['y'], [])]⟩
  let missing : Variables := ⟨[]⟩
  have invalid : (expand {} .lenient empty.asSource text ()).outcome =
      .error (.invalid inner (.negativeLength (-1))) := by
    rw [expand_of_parseText_eq_ok parsed]
    rfl
  have unset : (expand {} .strict missing.asSource text ()).outcome =
      .error (.variableNotSet ['y'] []) := by
    rw [expand_of_parseText_eq_ok parsed]
    rfl
  exact ⟨pointsInto_of_expand invalid, (pointsInto_of_expand unset).2⟩

end ParameterExpansion.Expansion
