import ParameterExpansion.Proofs.Expansion.WrittenExpansion
import ParameterExpansion.Proofs.Template.Nesting

/-!
# Templates inside an operation

On its own, a template is read without quoting and may hold closing braces; inside an operation it is
first cut out up to a closing brace and then read with quoting on.  The two readings agree on every
template whose own literal text holds neither a backslash nor a closing brace, whatever its
expansions hold.  So a default, an alternative and a message mean what they mean as templates.
-/

namespace ParameterExpansion.Template

/-- No literal text of the word, outside its expansions, holds a backslash or a closing brace. -/
def IsBare (word : Word) : Prop :=
  ∀ text, .literal text ∈ word → ∀ c ∈ text, c ≠ '\\' ∧ c ≠ '}'

/-! ## Characters of literal text -/

theorem exists_literal_joinChar
    (c : Char)
    (contents : List Content) :
    ∃ text, .literal text ∈ joinChar c contents ∧ c ∈ text := by
  unfold joinChar
  split
  · exact ⟨_, List.mem_cons_self, List.mem_cons_self⟩
  · exact ⟨_, List.mem_cons_self, List.mem_singleton_self c⟩

/-- Literal text stays part of literal text when a character is joined to the contents. -/
theorem exists_literal_joinChar_of_mem
    {contents : List Content} {text : Text}
    (member : .literal text ∈ contents)
    (c : Char) :
    ∃ longer, .literal longer ∈ joinChar c contents ∧ text ⊆ longer := by
  unfold joinChar
  split
  · rename_i run rest
    rcases List.mem_cons.mp member with same | member
    · cases same
      exact ⟨c :: text, List.mem_cons_self, List.subset_cons_self c text⟩
    · exact ⟨text, List.mem_cons_of_mem _ member, List.Subset.refl text⟩
  · exact ⟨text, List.mem_cons_of_mem _ member, List.Subset.refl text⟩

/-- A character that is a lexeme of its own ends up in literal text. -/
theorem exists_literal_of_plain_mem
    {lexemes : List Lexeme} {c : Char}
    (member : .plain c ∈ lexemes) :
    ∃ text, .literal text ∈ joinLexemes lexemes ∧ c ∈ text := by
  have join {contents : List Content} (other : Char)
      (found : ∃ text, .literal text ∈ contents ∧ c ∈ text) :
      ∃ text, .literal text ∈ joinChar other contents ∧ c ∈ text := by
    rcases found with ⟨text, isContent, isChar⟩
    rcases exists_literal_joinChar_of_mem isContent other with ⟨longer, isJoined, subset⟩
    exact ⟨longer, isJoined, subset isChar⟩
  induction lexemes with
  | nil => cases member
  | cons lexeme lexemes ih =>
      rcases List.mem_cons.mp member with rfl | behind
      · exact exists_literal_joinChar c (joinLexemes lexemes)
      · cases lexeme with
        | plain other => exact join other (ih behind)
        | dollarPair => exact join '$' (ih behind)
        | escaped other =>
            rcases ih behind with ⟨text, isContent, isChar⟩
            exact ⟨text, List.mem_cons_of_mem _ isContent, isChar⟩
        | expansion body =>
            rcases ih behind with ⟨text, isContent, isChar⟩
            exact ⟨text, List.mem_cons_of_mem _ isContent, isChar⟩

theorem literal_mem_of_parsesTo
    {limits : Limits} {depth : Int} {contents : List Content} {word : Word} {text : Text}
    (parses : List.Forall₂ (ParsesTo limits depth) contents word)
    (member : .literal text ∈ contents) :
    .literal text ∈ word := by
  induction parses with
  | nil => cases member
  | cons first others ih =>
      rcases List.mem_cons.mp member with rfl | member
      · cases first
        exact List.mem_cons_self
      · exact List.mem_cons_of_mem _ (ih member)

/-! ## The two readings -/

/-- Without a bare backslash, a text consists of the same lexemes when backslashes quote. -/
theorem Lexes.quoting
    {text : Text} {lexemes : List Lexeme}
    (lexes : Lexes false text lexemes)
    (bare : ∀ c, .plain c ∈ lexemes → c ≠ '\\') :
    Lexes true text lexemes := by
  induction lexes with
  | nil => exact Lexes.nil
  | pair lexes ih => exact Lexes.pair (ih fun c member => bare c (by simp [member]))
  | expansion balanced lexes ih =>
      exact Lexes.expansion balanced (ih fun c member => bare c (by simp [member]))
  | escaped quotes lexes ih => cases quotes
  | @plain c rest lexemes marksNot quotesNot lexes ih =>
      have notQuote : ¬ IsQuote true c rest := fun quote => bare c List.mem_cons_self quote.2.1
      apply Lexes.plain marksNot notQuote
      exact ih fun other member => bare other (List.mem_cons_of_mem _ member)

/--
A bare template can stand in an operation: its text is balanced, and it is parsed as the word that
it is on its own, wherever there is room for its nesting.
-/
theorem balanced_and_parseWord_of_isBare
    {limits limits' : Limits} {depth : Int} {text : Text} {word : Word}
    (parsed : parseText limits text = .ok word)
    (bare : IsBare word)
    (room : depth + wordNesting word ≤ limits'.nesting) :
    Balanced text ∧ parseWord limits' true depth text = .ok word := by
  rcases parseWord_eq_ok_iff.mp (parseText_eq_ok_iff.mp parsed).2 with
    ⟨allowed, lexemes, lexes, parses⟩
  have clean : ∀ c, .plain c ∈ lexemes → c ≠ '\\' ∧ c ≠ '}' := by
    intro c member
    rcases exists_literal_of_plain_mem member with ⟨run, isContent, isChar⟩
    exact bare run (literal_mem_of_parsesTo parses isContent) c isChar
  have quoted := lexes.quoting fun c member => (clean c member).1
  have inner : parseWord limits true 0 text = .ok word :=
    parseWord_eq_ok_iff.mpr ⟨allowed, lexemes, quoted, parses⟩
  exact ⟨balanced_iff_lexes.mpr ⟨lexemes, quoted, clean⟩, parseWord_of_nesting_le inner room⟩

theorem length_le_replacementText (replacement : Text) :
    replacement.length ≤ (replacementText replacement).length := by
  by_cases empty : replacement = []
  · simp [empty]
  · simp [replacementText, empty]

theorem length_le_writeOperation
    {operation : Operation Text} {word : Text}
    (member : word ∈ operation.words) :
    word.length ≤ (writeOperation operation).length := by
  cases operation with
  | value | length | changeCase | substring | orFail => cases member
  | fallback | alternative | orFailWith =>
      obtain rfl := List.mem_singleton.mp member
      simp only [writeOperation, List.length_append, List.length_cons]
      omega
  | remove side longest pattern =>
      obtain rfl := List.mem_singleton.mp member
      rw [writeOperation]
      split <;> simp only [List.length_cons] <;> omega
  | replace scope pattern replacement =>
      have own := length_le_replacementText replacement
      simp only [writeOperation, List.length_append]
      rcases Operation.mem_words_replace_iff.mp member with rfl | rfl <;> omega

/-- The words of an operation are no longer than the expansion that is written with them. -/
theorem length_le_enclose_writeBody
    {operation : Operation Text} {word : Text}
    (member : word ∈ operation.words)
    (name : Name) :
    word.length ≤ (enclose (writeBody name operation)).length := by
  have inside := length_le_writeOperation member
  by_cases isLength : operation = .length
  · subst isLength
    cases member
  · rw [writeBody_eq_append isLength]
    rw [length_enclose, List.length_append]
    omega

end ParameterExpansion.Template

namespace ParameterExpansion.Expansion

open Template

/-! ## Expanding -/

/-- The text of a word is shorter than an expansion it stands in, so it is not too long on its own. -/
theorem expandWith_of_mem_words
    {limits limits' : Limits} {name : Name} {text : Text} {word : Word} {operation : Operation Text}
    {mode : Mode} {bindings : Variables}
    (parsed : parseText limits' text = .ok word)
    (shallow : wordNesting word ≤ limits.nesting)
    (isWord : text ∈ operation.words)
    (fits : (enclose (writeBody name operation)).length ≤ limits.size) :
    expandWith limits mode bindings text =
      ((expandWord word).run mode bindings.asSource ()).outcome := by
  have shorter := length_le_enclose_writeBody isWord name
  have short : text.length ≤ limits.size := by omega
  rw [expandWith, expand_of_parseText_eq_ok (parseText_of_nesting_le parsed shallow short)]

/--
A template that can be parsed, and whose own literal text holds neither a backslash nor a closing
brace, means the same inside an operation as on its own, if the limits leave room for one more level.
As the default of a variable that is not set, and as the alternative for one that is set, it gives
what it gives on its own, or fails as it does.  As the message for a variable that is not set it
fails as it does on its own, or else with what it gives as the detail; an empty detail has a standard
wording.
-/
theorem expandWith_nested
    {limits limits' : Limits} {name : Name} {text : Text} {word : Word}
    (isName : IsName name)
    (parsed : parseText limits' text = .ok word)
    (bare : IsBare word)
    (room : (wordNesting word : Int) + 1 ≤ limits.nesting)
    (mode : Mode)
    (bindings : Variables) :
    (bindings.get? name = none → ∀ colon sign,
      (enclose (writeBody name (.fallback colon sign text))).length ≤ limits.size →
        expandWith limits mode bindings (enclose (writeBody name (.fallback colon sign text))) =
          expandWith limits mode bindings text) ∧
    ((bindings.get? name).isSome → ∀ colon,
      (enclose (writeBody name (.alternative colon text))).length ≤ limits.size →
        expandWith limits mode bindings (enclose (writeBody name (.alternative colon text))) =
          expandWith limits mode bindings text) ∧
    (bindings.get? name = none → ∀ colon,
      (enclose (writeBody name (.orFailWith colon text))).length ≤ limits.size →
        expandWith limits mode bindings (enclose (writeBody name (.orFailWith colon text))) =
          (expandWith limits mode bindings text).bind
            fun message => .error (.parameterUnset name message)) ∧
    ∀ message, Failure.parameterDetail message =
      if message = [] then "parameter not set".toList else message := by
  have nests : 1 ≤ limits.nesting := by omega
  have inner : Balanced text ∧ parseWord limits true 1 text = .ok word :=
    balanced_and_parseWord_of_isBare parsed bare (by omega)
  rcases inner with ⟨balanced, parsedInner⟩
  have shallow : wordNesting word ≤ limits.nesting := by omega
  have replies : (bindings.asSource name ()).1.value? = bindings.get? name :=
    bindings.value?_asSource name ()
  refine ⟨?_, ?_, ?_, ?_⟩
  · intro missing colon sign fits
    rw [expandWith_of_mem_words parsed shallow (List.mem_singleton_self _) fits, expandWith,
      outcome_expand_fallback isName balanced parsedInner nests fits (replies.trans missing)]
  · intro isSet colon fits
    rcases Option.isSome_iff_exists.mp isSet with ⟨value, present⟩
    rw [expandWith_of_mem_words parsed shallow (List.mem_singleton_self _) fits, expandWith,
      outcome_expand_alternative isName balanced parsedInner nests fits (replies.trans present)]
  · intro missing colon fits
    rw [expandWith_of_mem_words parsed shallow (List.mem_singleton_self _) fits, expandWith,
      outcome_expand_orFailWith isName balanced parsedInner nests fits (replies.trans missing)]
  · intro message
    cases message with
    | nil => rfl
    | cons c message => rfl

/--
A pair of dollars and an expansion that holds a quoted brace, as a default, as an alternative and as
a message.
-/
theorem expandWith_nested_quotedBrace :
    let text := ['$', '$', 'b'] ++ enclose ['y', '-', '\\', '}']
    let missing : Variables := ⟨[]⟩
    let isSet : Variables := ⟨[(['x'], [])]⟩
    expandWith {} .strict missing (enclose (['x', ':', '-'] ++ text)) = .ok ['$', 'b', '}'] ∧
      expandWith {} .strict isSet (enclose (['x', '+'] ++ text)) = .ok ['$', 'b', '}'] ∧
      expandWith {} .strict missing (enclose (['x', '?'] ++ text)) =
        .error (.parameterUnset ['x'] ['$', 'b', '}']) := by
  intro text missing isSet
  let word : Word :=
    [.literal ['$', 'b'],
      .expansion ['y'] (.fallback false .minus [.escaped ['}']]) (enclose ['y', '-', '\\', '}'])]
  have normal : NormalWord .top word := by
    have isName : IsName ['y'] := by decide
    simp [word, NormalWord, NormalPart, NormalOperation, Operation.IsDistinct, Place.Allows,
      Place.quotes, Part.isLiteral, isName]
  have parsed : parseText {} text = .ok word :=
    parseText_eq_ok_iff.mpr ⟨by decide, parseWord_printWord normal (by decide)⟩
  have bare : IsBare word := by
    intro literal member
    obtain rfl : literal = ['$', 'b'] := by simpa [word] using member
    simp
  have expanded :
      expandWith {} .strict missing text = .ok ['$', 'b', '}'] ∧
        expandWith {} .strict isSet text = .ok ['$', 'b', '}'] := by
    rw [expandWith, expandWith, expand_of_parseText_eq_ok parsed, expand_of_parseText_eq_ok parsed]
    exact ⟨rfl, rfl⟩
  have isName : IsName ['x'] := by decide
  rcases @expandWith_nested {} {} _ _ _ isName parsed bare (by decide) .strict missing with
    ⟨fallback, _, message, _⟩
  rcases @expandWith_nested {} {} _ _ _ isName parsed bare (by decide) .strict isSet with
    ⟨_, alternative, _, _⟩
  refine ⟨?_, ?_, ?_⟩
  · exact (fallback rfl true .minus (by decide)).trans expanded.1
  · exact (alternative rfl false (by decide)).trans expanded.2
  · refine (message rfl false (by decide)).trans ?_
    rw [expanded.1]
    rfl

end ParameterExpansion.Expansion
