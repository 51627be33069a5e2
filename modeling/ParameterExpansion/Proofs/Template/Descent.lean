import ParameterExpansion.Proofs.Template.Nesting

/-!
# Parsing goes on with shorter texts

One level of parsing scans a text and reads the bodies of its expansions; the words cut out of these
bodies are left to the parser of the next level.  An expansion spends two characters on its opening,
one on its closing brace and at least one each on the name and on the operator, so a word is shorter
than the text by five.  Parsing is therefore the only function that satisfies its equations, whatever
the limit is, and every level of nesting costs five characters of the template.
-/

namespace ParameterExpansion.Template

/-! ## Words in a text -/

/-- The word is cut out of one of the expansions that scanning the whole text finds. -/
def IsWordIn (escapes : Bool) (text word : Text) : Prop :=
  ∃ segments body position,
    scan escapes text = .ok segments ∧
    ⟨.expansion body, position⟩ ∈ segments ∧
    IsCutFrom body word

theorem IsCutFrom.length_add_two_le
    {body word : Text}
    (isCut : IsCutFrom body word) :
    word.length + 2 ≤ body.length := by
  rcases isCut with ⟨name, operation, read, member⟩
  exact length_of_mem_readBody read member

/-- A word in a text is shorter than the text by the five characters around it. -/
theorem IsWordIn.length_add_five_le
    {escapes : Bool} {text word : Text}
    (isWord : IsWordIn escapes text word) :
    word.length + 5 ≤ text.length := by
  rcases isWord with ⟨segments, body, position, scanned, member, isCut⟩
  have bodyShorter := length_of_mem_scan scanned member
  have wordShorter := isCut.length_add_two_le
  omega

/-! ## One level of parsing -/

/-- The part that a segment becomes if the words of an expansion are left to another parser. -/
def partOfSegment (parseInner : Text → Except Failure Word) (segment : Segment) :
    Except Failure Part :=
  match segment.content with
  | .literal text => .ok (.literal text)
  | .escaped c => .ok (.escaped [c])
  | .expansion body =>
      (readBody body).bind fun (name, operation) =>
        (operation.traverse parseInner).map fun operation =>
          .expansion name operation (enclose body)

/-- One level of parsing: the words of the expansions in the text are left to another parser. -/
def parseLevel (limits : Limits) (escapes : Bool) (depth : Int)
    (parseInner : Text → Except Failure Word) (text : Text) : Except Failure Word :=
  if limits.nesting < depth then .error (.ofExcess (.nesting limits.nesting))
  else (scan escapes text).bind (·.mapM (partOfSegment parseInner))

/-- Parsing leaves the words to itself, one level deeper. -/
theorem parseWord_eq_parseLevel
    (limits : Limits)
    (escapes : Bool)
    (depth : Int)
    (text : Text) :
    parseWord limits escapes depth text =
      parseLevel limits escapes depth (parseWord limits true (depth + 1)) text := by
  have segments : parseSegment limits depth =
      partOfSegment (parseWord limits true (depth + 1)) := by
    funext ⟨content, position⟩
    cases content with
    | literal text => rfl
    | escaped c => rfl
    | expansion body => exact parseBody_eq limits depth body
  rw [parseWord_eq, segments, parseLevel]

theorem Operation.traverse_congr
    {Error Source Target : Type} {step step' : Source → Except Error Target}
    {operation : Operation Source}
    (same : ∀ word ∈ operation.words, step word = step' word) :
    operation.traverse step = operation.traverse step' := by
  cases operation with
  | value | length | changeCase | substring | orFail => rfl
  | fallback | alternative | orFailWith | remove =>
      simp only [traverse, same _ (List.mem_singleton_self _)]
  | replace scope pattern replacement =>
      have patterns := same pattern (mem_words_replace_iff.mpr (Or.inl rfl))
      have replacements := same replacement (mem_words_replace_iff.mpr (Or.inr rfl))
      simp only [traverse, patterns, replacements]

theorem mapM_congr
    {Error Item Result : Type} {step step' : Item → Except Error Result} {items : List Item}
    (same : ∀ item ∈ items, step item = step' item) :
    items.mapM step = items.mapM step' := by
  induction items with
  | nil => rfl
  | cons item items ih =>
      rcases List.forall_mem_cons.mp same with ⟨first, others⟩
      rw [List.mapM_cons, List.mapM_cons, first, ih others]

/-- The parser of the next level is asked for nothing but words in the text. -/
theorem parseLevel_congr
    {limits : Limits} {escapes : Bool} {depth : Int} {text : Text}
    {parseInner parseInner' : Text → Except Failure Word}
    (same : ∀ word, IsWordIn escapes text word → parseInner word = parseInner' word) :
    parseLevel limits escapes depth parseInner text =
      parseLevel limits escapes depth parseInner' text := by
  unfold parseLevel
  split
  · rfl
  · cases scanned : scan escapes text with
    | error failure => rfl
    | ok segments =>
        apply mapM_congr
        rintro ⟨content, position⟩ member
        cases content with
        | literal text => rfl
        | escaped c => rfl
        | expansion body =>
            simp only [partOfSegment]
            cases read : readBody body with
            | error failure => rfl
            | ok found =>
                rcases found with ⟨name, operation⟩
                have traversed :
                    operation.traverse parseInner = operation.traverse parseInner' := by
                  apply Operation.traverse_congr
                  intro word isWord
                  have isCut : IsCutFrom body word := ⟨name, operation, read, isWord⟩
                  exact same word ⟨segments, body, position, scanned, member, isCut⟩
                simp only [Except.bind, traversed]

/-- What satisfies the equations of parsing is parsing. -/
theorem eq_parseWord_of_parseLevel
    {limits : Limits} {parse : Bool → Int → Text → Except Failure Word}
    (level : ∀ escapes depth text,
      parse escapes depth text = parseLevel limits escapes depth (parse true (depth + 1)) text) :
    parse = parseWord limits := by
  funext escapes depth text
  induction size : text.length using Nat.strong_induction_on generalizing escapes depth text with
  | h size ih =>
  subst size
  rw [level, parseWord_eq_parseLevel]
  apply parseLevel_congr
  intro word isWord
  have shorter := isWord.length_add_five_le
  exact ih word.length (by omega) true (depth + 1) word rfl

/-! ## What nesting costs -/

/-- A parsed word is nested no deeper than its text has five characters for each level. -/
theorem five_mul_wordNesting_le_of_parseWord
    {limits : Limits} {escapes : Bool} {depth : Int} {text : Text} {word : Word}
    (parsed : parseWord limits escapes depth text = .ok word) :
    5 * wordNesting word ≤ text.length := by
  induction word using word_induction generalizing escapes depth text with
  | step word ih =>
  have levels : wordNesting word ≤ text.length / 5 := by
    apply wordNesting_le
    intro name operation raw member inner isInner
    rcases exists_body_of_mem_word parsed member with ⟨body, _, _, stands, parsedBody⟩
    rcases exists_text_of_mem_words parsedBody isInner with ⟨innerText, isCut, parsedInner⟩
    have innerBound := ih name operation _ member inner isInner parsedInner
    have wordShorter := isCut.length_add_two_le
    have bodyShorter := stands.length_le
    rw [length_enclose] at bodyShorter
    omega
  omega

/-- Text that is too deep has five characters for each level that is left and for one more. -/
theorem le_length_of_parseWord_eq_nesting
    {limits : Limits} {escapes : Bool} {depth : Int} {text : Text} {maximum : Int}
    (failed : parseWord limits escapes depth text = .error (.limitExceeded (.nesting maximum))) :
    5 * (limits.nesting + 1 - depth) ≤ text.length := by
  induction size : text.length using Nat.strong_induction_on generalizing escapes depth text with
  | h size ih =>
  subst size
  rcases cases_of_parseWord_eq_error failed with
    ⟨tooDeep, _⟩ | unscanned | ⟨segments, body, position, scanned, member, failed⟩
  · omega
  · rcases exists_unterminated_of_scan unscanned with ⟨rest, place, other⟩
    cases other
  · rcases readBody_or_word_of_parseBody_eq_error failed with unread | ⟨word, isCut, _, failed⟩
    · rcases isReadingFailure_of_readBody unread with ⟨fault, other⟩ | ⟨digits, other, _⟩
      · cases other
      · cases other
    · have isWord : IsWordIn escapes text word := ⟨segments, body, position, scanned, member, isCut⟩
      have shorter := isWord.length_add_five_le
      have deeper := ih word.length (by omega) failed rfl
      omega

/--
The words in a text are shorter than the text by five, and one level of parsing leaves nothing but
these words to the next level.  So parsing ends, whatever the limit is: it is the only function that
satisfies its equations.  A template that is parsed has five characters for each level of its
nesting, and one that is found too deep has five for each level that the limit allows and for one
more.
-/
theorem parseWord_descends_and_nesting_le
    (limits : Limits)
    (text : Text) :
    (∀ escapes word, IsWordIn escapes text word → word.length + 5 ≤ text.length) ∧
    (∀ escapes depth parseInner parseInner',
      (∀ word, IsWordIn escapes text word → parseInner word = parseInner' word) →
        parseLevel limits escapes depth parseInner text =
          parseLevel limits escapes depth parseInner' text) ∧
    (∀ parse : Bool → Int → Text → Except Failure Word,
      (∀ escapes depth text,
        parse escapes depth text =
          parseLevel limits escapes depth (parse true (depth + 1)) text) ↔
        parse = parseWord limits) ∧
    (∀ word, parseText limits text = .ok word → 5 * wordNesting word ≤ text.length) ∧
    ∀ maximum,
      parseText limits text = .error (.limitExceeded (.nesting maximum)) →
        5 * (limits.nesting + 1) ≤ text.length := by
  refine ⟨?_, ?_, ?_, ?_, ?_⟩
  · intro escapes word isWord
    exact isWord.length_add_five_le
  · intro escapes depth parseInner parseInner' same
    exact parseLevel_congr same
  · intro parse
    constructor
    · exact eq_parseWord_of_parseLevel
    · rintro rfl
      exact parseWord_eq_parseLevel limits
  · intro word parsed
    exact five_mul_wordNesting_le_of_parseWord (parseText_eq_ok_iff.mp parsed).2
  · intro maximum failed
    rw [parseText] at failed
    split at failed
    · cases (Failure.ofExcess_eq_limitExceeded_iff.mp (Except.error.inj failed)).2
    · have bound := le_length_of_parseWord_eq_nesting failed
      omega

/-- The template `${x/${y/}}` is as short as a nesting of two allows, and too deep for the limit 1. -/
theorem parseWord_descends_and_nesting_le_two :
    let inner := enclose ['y', '/']
    let text := enclose (['x', '/'] ++ inner)
    let word : Word :=
      [.expansion ['x'] (.replace .first [.expansion ['y'] (.replace .first [] []) inner] []) text]
    IsWordIn false text inner ∧ inner.length + 5 = text.length ∧
      (parseText {} text = .ok word ∧ 5 * wordNesting word = text.length) ∧
      parseText { nesting := 1 } text = .error (.limitExceeded (.nesting 1)) ∧
      5 * (1 + 1) ≤ (text.length : Int) := by
  intro inner text word
  have scanned : scan false text = .ok [⟨.expansion (['x', '/'] ++ inner), 0⟩] := by
    cbv
  have read : readBody (['x', '/'] ++ inner) = .ok (['x'], .replace .first inner []) := by
    cbv
  have isWord : IsWordIn false text inner :=
    ⟨_, _, 0, scanned, List.mem_singleton_self _, _, _, read, List.mem_cons_self⟩
  have normal : NormalWord .top word := by
    have names : IsName ['x'] ∧ IsName ['y'] := by decide
    simp [word, inner, NormalWord, NormalPart, NormalOperation, Operation.IsDistinct, StartsWith,
      Part.startsWith, names]
  have parsed : parseText {} text = .ok word :=
    parseText_eq_ok_iff.mpr ⟨by decide, parseWord_printWord normal (by decide)⟩
  have lower : ({ nesting := 1 } : Limits).nesting ≤ ({} : Limits).nesting := by decide
  have tooDeep : parseText { nesting := 1 } text = .error (.limitExceeded (.nesting 1)) := by
    rcases isLimited_parseText lower rfl text with cut | same
    · exact cut
    · have allowed := nesting_le_of_parseWord (parseText_eq_ok_iff.mp (same.trans parsed)).2
      exact absurd allowed (by decide)
  rcases parseWord_descends_and_nesting_le {} text with ⟨shorter, _, _, nested, _⟩
  rcases parseWord_descends_and_nesting_le { nesting := 1 } text with ⟨_, _, _, _, deep⟩
  refine ⟨isWord, ?_, ⟨parsed, ?_⟩, tooDeep, deep 1 tooDeep⟩
  · exact Nat.le_antisymm (shorter false inner isWord) (by decide)
  · exact Nat.le_antisymm (nested word parsed) (by decide)

end ParameterExpansion.Template
