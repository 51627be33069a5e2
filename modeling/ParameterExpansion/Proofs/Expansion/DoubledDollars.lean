import ParameterExpansion.Proofs.Expansion.Concatenation
import ParameterExpansion.Proofs.Template.FailingRest
import ParameterExpansion.Proofs.Template.RoundTrip

/-!
# Text with doubled dollars in front of a template

Text whose dollars are doubled ends in an even number of them, so it can stand in front of every
template, whatever that begins with.  It is parsed as literal text, which joins literal text at the
start of the template, and nothing else in the template changes: what it expands to, what it asks
for and how it fails stay the same behind that text.
-/

namespace ParameterExpansion.Template

/-- A word with literal text in front, which is joined to literal text that comes first. -/
def prependText : Text → Word → Word
  | [], word => word
  | text, .literal more :: others => .literal (text ++ more) :: others
  | text, word => .literal text :: word

theorem prependText_nil
    {text : Text}
    (nonempty : text ≠ []) :
    prependText text [] = [.literal text] := by
  cases text with
  | nil => exact (nonempty rfl).elim
  | cons c text => rfl

theorem joinWords_prependText
    (text : Text)
    (word : Word) :
    joinWords (prependText text []) word = prependText text word := by
  cases text with
  | nil => exact joinWords_nil word
  | cons c text =>
      rcases word with _ | ⟨part, others⟩
      · rfl
      · cases part with
        | literal more => exact joinWords_literal (c :: text) more others
        | escaped quoted => rfl
        | expansion name operation raw => rfl

/-! ## Text with doubled dollars -/

theorem even_closingDollars_doubleDollars (text : Text) :
    Even (closingDollars (doubleDollars text)) := by
  induction text with
  | nil => exact Even.zero
  | cons c text ih =>
      by_cases isDollar : c = '$'
      · subst isDollar
        exact (even_closingDollars_pair_iff _).mpr ih
      · rw [doubleDollars_cons isDollar, ← List.nil_append (c :: _),
          closingDollars_append_cons isDollar]
        exact ih

theorem canMeet_doubleDollars (text rest : Text) :
    CanMeet (doubleDollars text) rest :=
  Or.inl (even_closingDollars_doubleDollars text)

/-- Text with doubled dollars is parsed as the text. -/
theorem parseText_doubleDollars
    {limits : Limits} {text : Text}
    (nests : 0 ≤ limits.nesting)
    (fits : (doubleDollars text).length ≤ limits.size) :
    parseText limits (doubleDollars text) = .ok (prependText text []) := by
  have allowed : ∀ c ∈ text, Place.top.Allows c := fun _ _ => True.intro
  have lexes := lexes_doubleDollars_append allowed Lexes.nil
  rw [List.append_nil] at lexes
  refine parseText_eq_ok_iff.mpr ⟨fits, parseWord_eq_ok_iff.mpr ⟨nests, _, lexes, ?_⟩⟩
  by_cases empty : text = []
  · subst empty
    exact List.Forall₂.nil
  · rw [joinLexemes_literal_append empty (by simp [joinLexemes]), prependText_nil empty]
    exact List.Forall₂.cons (ParsesTo.literal text) List.Forall₂.nil

/-- Where there is room for a template behind such text, the text can be parsed on its own. -/
theorem parseText_doubleDollars_of_append
    {limits : Limits} {text rest : Text} {word : Word}
    (parsed : parseText limits rest = .ok word)
    (fits : (doubleDollars text ++ rest).length ≤ limits.size) :
    parseText limits (doubleDollars text) = .ok (prependText text []) := by
  have nests := (parseWord_eq_ok_iff.mp (parseText_eq_ok_iff.mp parsed).2).1
  rw [List.length_append] at fits
  exact parseText_doubleDollars nests (by omega)

/-- In front of a template, such text is parsed as literal text in front of its word. -/
theorem parseText_doubleDollars_append
    {limits : Limits} {text rest : Text} {word : Word}
    (parsed : parseText limits rest = .ok word)
    (fits : (doubleDollars text ++ rest).length ≤ limits.size) :
    parseText limits (doubleDollars text ++ rest) = .ok (prependText text word) := by
  have textParsed := parseText_doubleDollars_of_append parsed fits
  rw [parseText_append textParsed parsed fits (canMeet_doubleDollars text rest),
    joinWords_prependText]

/-- In front of a template that cannot be parsed, it moves the failure and changes nothing else. -/
theorem parseText_doubleDollars_append_of_error
    {limits : Limits} {text rest : Text} {failure : Failure}
    (failed : parseText limits rest = .error failure)
    (fits : (doubleDollars text ++ rest).length ≤ limits.size) :
    parseText limits (doubleDollars text ++ rest) =
      .error (failure.movedBy (doubleDollars text).length) := by
  have restFits : rest.length ≤ limits.size ∧ (doubleDollars text).length ≤ limits.size := by
    rw [List.length_append] at fits
    omega
  by_cases nests : 0 ≤ limits.nesting
  · have textParsed := parseText_doubleDollars nests restFits.2
    exact parseText_append_of_error textParsed failed fits (canMeet_doubleDollars text rest)
  · -- No template at all may be nested less deep than not nested.
    have tooDeep : limits.nesting < 0 := Int.not_le.mp nests
    rw [parseText, if_neg (Int.not_lt.mpr restFits.1), parseWord_eq, if_pos tooDeep] at failed
    rw [parseText, if_neg (Int.not_lt.mpr fits), parseWord_eq, if_pos tooDeep]
    cases failed
    rw [Failure.movedBy_eq_self (Failure.ofExcess_ne_unterminated _)]

end ParameterExpansion.Template

namespace ParameterExpansion.Expansion

open Template

theorem expandWord_prependText (text : Text) :
    expandWord (prependText text []) = .answer text := by
  by_cases empty : text = []
  · subst empty
    rfl
  · rw [prependText_nil empty, expandWord_singleton, expandPart]

/-- Behind text with doubled dollars, a template is expanded as it is without that text. -/
theorem expand_doubleDollars_append
    {State : Type} {limits : Limits} {text rest : Text} {word : Word}
    (parsed : parseText limits rest = .ok word)
    (fits : (doubleDollars text ++ rest).length ≤ limits.size)
    (mode : Mode)
    (source : Source State)
    (state : State) :
    expand limits mode source (doubleDollars text ++ rest) state =
      let run := expand limits mode source rest state
      { run with outcome := run.outcome.map (text ++ ·) } := by
  have textParsed := parseText_doubleDollars_of_append parsed fits
  rw [expand_append textParsed parsed fits (canMeet_doubleDollars text rest),
    expand_of_parseText_eq_ok textParsed, expandWord_prependText]
  rfl

/--
Doubling the dollars of a text makes it literal in front of every template.  If the template can be
parsed, the text is put in front of its word, and expanding gives the text and then what the template
gives alone, with the same questions and the same failures.  If it cannot be parsed, it fails in the
same way behind the text; the position of an expansion that is never closed counts the text as well.
-/
theorem parse_and_expand_doubleDollars_append
    {limits : Limits} {front rest : Text}
    (fits : (doubleDollars front ++ rest).length ≤ limits.size) :
    (∀ word, parseText limits rest = .ok word →
      parseText limits (doubleDollars front ++ rest) = .ok (prependText front word) ∧
      ∀ (State : Type) (mode : Mode) (source : Source State) (state : State),
        expand limits mode source (doubleDollars front ++ rest) state =
          let run := expand limits mode source rest state
          { run with outcome := run.outcome.map (front ++ ·) }) ∧
    (∀ text position, parseText limits rest = .error (.unterminated text position) →
      parseText limits (doubleDollars front ++ rest) =
        .error (.unterminated text (position + (doubleDollars front).length))) ∧
    ∀ failure, parseText limits rest = .error failure →
      (∀ text position, failure ≠ .unterminated text position) →
      parseText limits (doubleDollars front ++ rest) = .error failure := by
  refine ⟨?_, ?_, ?_⟩
  · intro word parsed
    exact ⟨parseText_doubleDollars_append parsed fits,
      fun _ => expand_doubleDollars_append parsed fits⟩
  · intro text position failed
    exact parseText_doubleDollars_append_of_error failed fits
  · intro failure failed other
    rw [parseText_doubleDollars_append_of_error failed fits, Failure.movedBy_eq_self other]

/-- Behind `a$$` a brace opens nothing, and is joined to the literal text in front of it. -/
theorem parse_and_expand_doubleDollars_append_brace :
    let text := ['a', '$', '$', '{'] ++ enclose ['x']
    parseText {} text = .ok [.literal ['a', '$', '{'], .expansion ['x'] .value (enclose ['x'])] ∧
    expandWith {} .strict ⟨[(['x'], ['1'])]⟩ text = .ok ['a', '$', '{', '1'] ∧
    parseText {} ['a', '$', '$', '{', '$', '{', 'x'] = .error (.unterminated ['$', '{', 'x'] 4) := by
  intro text
  have parsed :
      parseText {} ('{' :: enclose ['x']) =
        .ok [.literal ['{'], .expansion ['x'] .value (enclose ['x'])] := by
    have closed : closeBody? ['x', '}'] = some (['x'], []) := rfl
    have lexes : Lexes false ('{' :: enclose ['x']) [.plain '{', .expansion ['x']] :=
      .plain (by simp [IsMark]) (by simp [IsQuote])
        (.expansion (closeBody?_eq_some_iff.mp closed).1 .nil)
    have read : readBody ['x'] = .ok (['x'], .value) := by cbv
    have body : parseBody {} 0 ['x'] = .ok (.expansion ['x'] .value (enclose ['x'])) :=
      parseBody_eq_ok_iff.mpr ⟨_, _, _, read, .value, rfl⟩
    refine parseText_eq_ok_iff.mpr ⟨by decide, parseWord_eq_ok_iff.mpr ⟨by decide, _, lexes, ?_⟩⟩
    exact List.Forall₂.cons (.literal ['{']) (List.Forall₂.cons (.expansion body) .nil)
  have failed :
      parseText {} ['{', '$', '{', 'x'] = .error (.unterminated ['$', '{', 'x'] 1) := by
    have scanned :
        scan false ['{', '$', '{', 'x'] = .error (.unterminated ['$', '{', 'x'] 1) := by
      cbv
    rw [parseText, if_neg (by decide), parseWord_eq, if_neg (by decide), scanned]
    rfl
  have fits : (doubleDollars ['a', '$'] ++ '{' :: enclose ['x']).length ≤ ({} : Limits).size := by
    decide
  have fitsOpen :
      (doubleDollars ['a', '$'] ++ ['{', '$', '{', 'x']).length ≤ ({} : Limits).size := by
    decide
  rcases (parse_and_expand_doubleDollars_append fits).1 _ parsed with ⟨joined, expanded⟩
  have run := expanded Unit .strict (Store.asSource ⟨[(['x'], ['1'])]⟩) ()
  rw [expand_of_parseText_eq_ok parsed] at run
  refine ⟨joined, (congrArg Run.outcome run).trans rfl, ?_⟩
  exact (parse_and_expand_doubleDollars_append fitsOpen).2.1 _ _ failed

end ParameterExpansion.Expansion
