import ParameterExpansion.Proofs.Template.Rejection
import ParameterExpansion.Proofs.Template.RoundTrip

/-!
# Parsing at another depth and with another limit

An expansion of a parsed word comes from a body that stands in the text, and the words of the
expansion come from texts cut out of that body and parsed one level deeper.

The depth at which a text is parsed and the limits are compared in one place only, and nothing else
of them enters the word.  So a text that is parsed into a word at one depth is parsed into the same
word at every depth that leaves room for the nesting of that word, and at no other.  A lower limit
stops parsing at a word that is too deep, or else it changes nothing, whatever the result is.
-/

namespace ParameterExpansion.Template

/-! ## Expansions of a parsed word -/

theorem ParsesTo.exists_body
    {limits : Limits} {depth : Int} {content : Content} {name : Name}
    {operation : Operation (List Part)} {raw : Text}
    (parses : ParsesTo limits depth content (.expansion name operation raw)) :
    ∃ body, content = .expansion body ∧
      parseBody limits depth body = .ok (.expansion name operation raw) := by
  cases parses with
  | expansion parsed => exact ⟨_, rfl, parsed⟩

/-- An expansion of a word is parsed from a balanced body that stands with its braces in the text. -/
theorem exists_body_of_mem_word
    {limits : Limits} {escapes : Bool} {depth : Int} {text : Text} {word : Word}
    {name : Name} {operation : Operation (List Part)} {raw : Text}
    (parsed : parseWord limits escapes depth text = .ok word)
    (member : .expansion name operation raw ∈ word) :
    ∃ body, Balanced body ∧ raw = enclose body ∧ enclose body <:+: text ∧
      parseBody limits depth body = .ok (.expansion name operation raw) := by
  rcases parseWord_eq_ok_iff.mp parsed with ⟨_, lexemes, lexes, parses⟩
  rcases exists_parsesTo_of_mem parses member with ⟨content, isContent, parsesTo⟩
  rcases parsesTo.exists_body with ⟨body, rfl, parsedBody⟩
  have isLexeme := isFrom_of_mem_joinLexemes isContent
  rcases parseBody_eq_ok_iff.mp parsedBody with ⟨_, _, _, _, _, same⟩
  cases same
  exact ⟨body, lexes.balanced_of_mem isLexeme, rfl, lexes.isInfix_of_mem isLexeme, parsedBody⟩

/-- A word of an expansion is parsed one level deeper, from a text that is cut out of the body. -/
theorem exists_text_of_mem_words
    {limits : Limits} {depth : Int} {body : Text}
    {name : Name} {operation : Operation (List Part)} {raw : Text} {inner : Word}
    (parsed : parseBody limits depth body = .ok (.expansion name operation raw))
    (member : inner ∈ operation.words) :
    ∃ text, IsCutFrom body text ∧ parseWord limits true (depth + 1) text = .ok inner := by
  rcases parseBody_eq_ok_iff.mp parsed with ⟨_, source, _, read, related, same⟩
  cases same
  rcases related.exists_of_mem member with ⟨text, isSource, parsedInner⟩
  exact ⟨text, ⟨_, _, read, isSource⟩, parsedInner⟩

/-! ## Another depth -/

/-- The parts of a word come from contents at another depth if its expansions do. -/
theorem parsesTo_of_parseBody
    {limits limits' : Limits} {depth depth' : Int} {contents : List Content} {word : Word}
    (parses : List.Forall₂ (ParsesTo limits depth) contents word)
    (bodies : ∀ part ∈ word, ∀ body,
      parseBody limits depth body = .ok part → parseBody limits' depth' body = .ok part) :
    List.Forall₂ (ParsesTo limits' depth') contents word := by
  induction parses with
  | nil => exact List.Forall₂.nil
  | @cons content part contents word first others ih =>
      have rest := ih fun other member => bodies other (List.mem_cons_of_mem part member)
      cases first with
      | literal text => exact List.Forall₂.cons (ParsesTo.literal text) rest
      | escaped c => exact List.Forall₂.cons (ParsesTo.escaped c) rest
      | expansion parsed =>
          have own := bodies part List.mem_cons_self _ parsed
          exact List.Forall₂.cons (ParsesTo.expansion own) rest

/-- The depth at which a word was parsed leaves room for its nesting. -/
theorem nesting_le_of_parseWord
    {limits : Limits} {escapes : Bool} {depth : Int} {text : Text} {word : Word}
    (parsed : parseWord limits escapes depth text = .ok word) :
    depth + wordNesting word ≤ limits.nesting := by
  induction word using word_induction generalizing escapes depth text with
  | step word ih =>
  have allowed := (parseWord_eq_ok_iff.mp parsed).1
  have room : wordNesting word ≤ (limits.nesting - depth).toNat := by
    apply wordNesting_le
    intro name operation raw member inner isInner
    rcases exists_body_of_mem_word parsed member with ⟨body, _, _, _, parsedBody⟩
    rcases exists_text_of_mem_words parsedBody isInner with ⟨innerText, _, parsedInner⟩
    have deeper := ih name operation _ member inner isInner parsedInner
    omega
  omega

/-- A word is parsed in the same way at every depth that leaves room for its nesting. -/
theorem parseWord_of_nesting_le
    {limits limits' : Limits} {escapes : Bool} {depth depth' : Int} {text : Text} {word : Word}
    (parsed : parseWord limits escapes depth text = .ok word)
    (room : depth' + wordNesting word ≤ limits'.nesting) :
    parseWord limits' escapes depth' text = .ok word := by
  induction word using word_induction generalizing escapes depth depth' text with
  | step word ih =>
  rcases parseWord_eq_ok_iff.mp parsed with ⟨_, lexemes, lexes, parses⟩
  refine parseWord_eq_ok_iff.mpr ⟨by omega, lexemes, lexes, ?_⟩
  apply parsesTo_of_parseBody parses
  intro part member body parsedBody
  rcases parseBody_eq_ok_iff.mp parsedBody with ⟨name, source, operation, read, related, rfl⟩
  refine parseBody_eq_ok_iff.mpr ⟨name, source, operation, read, ?_, rfl⟩
  apply related.imp
  intro innerText _ inner isInner parsedInner
  -- The word of an operation is parsed one level deeper and nested less deep by one at least.
  have deeper := wordNesting_lt_of_mem member isInner
  exact ih name operation _ member inner isInner parsedInner (by omega)

/-- A template that is parsed is parsed in the same way with all limits that leave room for it. -/
theorem parseText_of_nesting_le
    {limits limits' : Limits} {text : Text} {word : Word}
    (parsed : parseText limits text = .ok word)
    (room : wordNesting word ≤ limits'.nesting)
    (fits : text.length ≤ limits'.size) :
    parseText limits' text = .ok word := by
  have parsedWord := (parseText_eq_ok_iff.mp parsed).2
  exact parseText_eq_ok_iff.mpr ⟨fits, parseWord_of_nesting_le parsedWord (by omega)⟩

/-! ## Lower limits -/

/-- The result with a lower limit is the failure that this limit gives, or the same as without it. -/
def IsLimited {Result : Type} (maximum : Int) (lower higher : Except Failure Result) : Prop :=
  lower = .error (.ofExcess (.nesting maximum)) ∨ lower = higher

namespace IsLimited

variable {Item Result Target : Type} {maximum : Int}

theorem refl (result : Except Failure Result) :
    IsLimited maximum result result := by
  exact Or.inr rfl

theorem bind
    {lower higher : Except Failure Result} {next next' : Result → Except Failure Target}
    (limited : IsLimited maximum lower higher)
    (nextLimited : ∀ result, IsLimited maximum (next result) (next' result)) :
    IsLimited maximum (lower >>= next) (higher >>= next') := by
  rcases limited with rfl | rfl
  · exact Or.inl rfl
  · cases lower with
    | error failure => exact refl (.error failure)
    | ok result => exact nextLimited result

/-- The first item that is too deep decides, unless one before it fails for another reason. -/
theorem mapM
    {step step' : Item → Except Failure Result} {items : List Item}
    (limited : ∀ item ∈ items, IsLimited maximum (step item) (step' item)) :
    IsLimited maximum (items.mapM step) (items.mapM step') := by
  induction items with
  | nil => exact refl _
  | cons item items ih =>
      rcases List.forall_mem_cons.mp limited with ⟨first, others⟩
      rw [List.mapM_cons, List.mapM_cons]
      exact first.bind fun _ => (ih others).bind fun _ => refl _

theorem traverse
    {step step' : Item → Except Failure Result} {operation : Operation Item}
    (limited : ∀ word ∈ operation.words, IsLimited maximum (step word) (step' word)) :
    IsLimited maximum (operation.traverse step) (operation.traverse step') := by
  cases operation with
  | value | length | changeCase | substring | orFail => exact refl _
  | fallback | alternative | orFailWith | remove =>
      exact (limited _ (List.mem_singleton_self _)).bind fun _ => refl _
  | replace scope pattern replacement =>
      have patternLimited := limited pattern (Operation.mem_words_replace_iff.mpr (Or.inl rfl))
      have replacementLimited :=
        limited replacement (Operation.mem_words_replace_iff.mpr (Or.inr rfl))
      exact patternLimited.bind fun _ => replacementLimited.bind fun _ => refl _

end IsLimited

/-- A body is parsed under a lower limit as its words are. -/
theorem isLimited_parseBody
    {limits limits' : Limits} {depth : Int} {body : Text}
    (words : ∀ word, word.length < body.length →
      IsLimited limits.nesting
        (parseWord limits true (depth + 1) word)
        (parseWord limits' true (depth + 1) word)) :
    IsLimited limits.nesting (parseBody limits depth body) (parseBody limits' depth body) := by
  rw [parseBody_eq, parseBody_eq]
  cases read : readBody body with
  | error failure => exact IsLimited.refl (.error failure)
  | ok found =>
      rcases found with ⟨name, operation⟩
      have traversed :
          IsLimited limits.nesting
            (operation.traverse (parseWord limits true (depth + 1)))
            (operation.traverse (parseWord limits' true (depth + 1))) := by
        apply IsLimited.traverse
        intro word isWord
        have shorter := length_of_mem_readBody read isWord
        exact words word (by omega)
      exact traversed.bind fun operation =>
        IsLimited.refl (.ok (Part.expansion name operation (enclose body)))

/-- Parsing under a lower limit stops at a word that is too deep, or the limit does not matter. -/
theorem isLimited_parseWord
    {limits limits' : Limits}
    (lower : limits.nesting ≤ limits'.nesting)
    (escapes : Bool)
    (depth : Int)
    (text : Text) :
    IsLimited limits.nesting
      (parseWord limits escapes depth text)
      (parseWord limits' escapes depth text) := by
  induction size : text.length using Nat.strong_induction_on generalizing escapes depth text with
  | h size ih =>
  subst size
  rw [parseWord_eq, parseWord_eq]
  by_cases tooDeep : limits.nesting < depth
  · rw [if_pos tooDeep]
    exact Or.inl rfl
  · have allowed : ¬ limits'.nesting < depth := by omega
    rw [if_neg tooDeep, if_neg allowed]
    cases scanned : scan escapes text with
    | error failure => exact IsLimited.refl (.error failure)
    | ok segments =>
        apply IsLimited.mapM
        rintro ⟨content, position⟩ member
        cases content with
        | literal run => exact IsLimited.refl (.ok (Part.literal run))
        | escaped c => exact IsLimited.refl (.ok (Part.escaped [c]))
        | expansion body =>
            have bodyShorter := length_of_mem_scan scanned member
            apply isLimited_parseBody
            intro word shorter
            exact ih word.length (by omega) true (depth + 1) word rfl

theorem isLimited_parseText
    {limits limits' : Limits}
    (lower : limits.nesting ≤ limits'.nesting)
    (sameSize : limits.size = limits'.size)
    (text : Text) :
    IsLimited limits.nesting (parseText limits text) (parseText limits' text) := by
  rw [parseText, parseText, ← sameSize]
  split
  · exact IsLimited.refl _
  · exact isLimited_parseWord lower false 0 text

/-- The only nesting limit that parsing finds exceeded is its own. -/
theorem parseText_eq_ofExcess_nesting
    {limits : Limits} {text : Text} {maximum : Int}
    (failed : parseText limits text = .error (.limitExceeded (.nesting maximum))) :
    parseText limits text = .error (.ofExcess (.nesting limits.nesting)) := by
  rw [failed]
  rcases cases_of_parseText_eq_error failed with
    tooLong | tooDeep | unclosed | ⟨body, _, _, ⟨fault, invalid⟩ | ⟨digits, tooLong, _⟩⟩
  · cases (Failure.ofExcess_eq_limitExceeded_iff.mp tooLong.symm).2
  · rw [tooDeep]
  · rcases exists_unterminated_of_scan unclosed with ⟨rest, place, other⟩
    cases other
  · cases invalid
  · cases tooLong

/--
The nesting limit rejects exactly the templates that are nested too deep, and changes nothing else.
What is parsed with a limit is parsed in the same way with a lower one that leaves room for its
nesting, and with any other lower one it is rejected for its depth; so what is parsed with the lower
limit is parsed in the same way with the higher one.  A failure with the higher limit stays what it
is with the lower one, unless the depth is found too great before it; a depth that is too great for
the higher limit is too great for the lower one.

A rejection for the depth names the limit.  So it is a failure of another kind if the limit has more
digits than are written, and only then.
-/
theorem parseText_of_lower_nesting
    {limits limits' : Limits}
    (lower : limits.nesting ≤ limits'.nesting)
    (sameSize : limits.size = limits'.size)
    (text : Text) :
    let tooDeep : Except Failure Word := .error (.ofExcess (.nesting limits.nesting))
    (∀ word, parseText limits' text = .ok word →
      parseText limits text = if wordNesting word ≤ limits.nesting then .ok word else tooDeep) ∧
    (∀ word, parseText limits text = .ok word → parseText limits' text = .ok word) ∧
    (∀ failure, parseText limits' text = .error failure →
      parseText limits text = .error failure ∨ parseText limits text = tooDeep) ∧
    (parseText limits' text = .error (.limitExceeded (.nesting limits'.nesting)) →
      parseText limits text = tooDeep) ∧
    (tooDeep = .error (.limitExceeded (.nesting limits.nesting)) ↔ IsReadable limits.nesting) := by
  intro tooDeep
  have limited := isLimited_parseText lower sameSize text
  refine ⟨?_, ?_, ?_, ?_, ?_⟩
  · intro word parsed
    split
    · rename_i room
      have fits := (parseText_eq_ok_iff.mp parsed).1
      exact parseText_of_nesting_le parsed room (by omega)
    · rename_i noRoom
      rcases limited with cut | same
      · exact cut
      · -- Parsed with the lower limit, the word would have room under it.
        have parsedLower := (parseText_eq_ok_iff.mp (same.trans parsed)).2
        have room := nesting_le_of_parseWord parsedLower
        omega
  · intro word parsed
    rcases limited with cut | same
    · rw [cut] at parsed
      cases parsed
    · exact same.symm.trans parsed
  · intro failure failed
    rcases limited with cut | same
    · exact Or.inr cut
    · exact Or.inl (same.trans failed)
  · intro failed
    rcases limited with cut | same
    · exact cut
    · exact parseText_eq_ofExcess_nesting (same.trans failed)
  · simp only [tooDeep, Except.error.injEq, Failure.ofExcess_eq_limitExceeded_iff, and_true]
    rfl

/-- `${a#${b-c}}` is nested two deep: the limit 2 is enough for it, and the limit 1 is not. -/
theorem parseText_of_lower_nesting_removal :
    let inner : Part :=
      .expansion ['b'] (.fallback false .minus [.literal ['c']]) (enclose ['b', '-', 'c'])
    let text := enclose (['a', '#'] ++ enclose ['b', '-', 'c'])
    let word : Word := [.expansion ['a'] (.remove .leading false [inner]) text]
    parseText {} text = .ok word ∧
      parseText { nesting := 2 } text = .ok word ∧
      parseText { nesting := 1 } text = .error (.limitExceeded (.nesting 1)) ∧
      parseText { nesting := -1 } text = .error (.limitExceeded (.nesting (-1))) := by
  intro inner text word
  have normal : NormalWord .top word := by
    have names : IsName ['a'] ∧ IsName ['b'] := by decide
    simp [word, inner, NormalWord, NormalPart, NormalOperation, Operation.IsDistinct,
      Place.Allows, StartsWith, Part.startsWith, names]
  have parsed : parseText {} text = .ok word :=
    parseText_eq_ok_iff.mpr ⟨by decide, parseWord_printWord normal (by decide)⟩
  have lowered (maximum : Int) (lower : maximum ≤ 32) :=
    (@parseText_of_lower_nesting { nesting := maximum } {} lower rfl text).1 word parsed
  exact ⟨parsed, lowered 2 (by decide), lowered 1 (by decide), lowered (-1) (by decide)⟩

/--
The empty template has no nesting at all, and a negative limit rejects it.  That limit cannot be
named if it has too many digits.
-/
theorem parseText_nil_of_long_nesting :
    let limits : Limits := { nesting := -(10 ^ maximumDigits) }
    parseText {} [] = .ok [] ∧
      ¬ wordNesting [] ≤ limits.nesting ∧
      parseText limits [] = .error .numberUnwritable := by
  intro limits
  have negative : limits.nesting < 0 := Int.neg_neg_of_pos (Int.pow_pos (by decide))
  have normal : NormalWord .top [] := by simp [NormalWord]
  refine ⟨?_, ?_, ?_⟩
  · exact parseText_eq_ok_iff.mpr ⟨by decide, parseWord_printWord normal (by decide)⟩
  · exact Int.not_le.mpr negative
  · rw [parseText, if_neg (by decide), parseWord_eq, if_pos negative, Failure.ofExcess]
    exact congrArg Except.error (if_neg not_isReadable_neg_pow)

end ParameterExpansion.Template
