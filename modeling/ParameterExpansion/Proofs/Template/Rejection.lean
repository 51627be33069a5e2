import ParameterExpansion.Proofs.Template.Fragments
import ParameterExpansion.Proofs.Template.Placement
import ParameterExpansion.Template

/-!
# Why parsing fails

Text that consists of lexemes is scanned, and the words cut out of its expansions are balanced, so
they consist of lexemes again.  Parsing such a text can fail for two reasons only: the nesting limit,
or a body that cannot be read, because it is invalid or because a number in it is too long.  An
expansion that is never closed is therefore found when the whole template is scanned, before any body
is read, and nowhere else.
-/

namespace ParameterExpansion.Template

/-! ## Where a failure comes from -/

/-- Parsing a list fails as one of its items does. -/
theorem exists_mem_of_mapM_eq_error
    {Error Item Result : Type}
    {step : Item → Except Error Result} {items : List Item} {error : Error}
    (failed : items.mapM step = .error error) :
    ∃ item ∈ items, step item = .error error := by
  induction items with
  | nil => simp [pure, Except.pure] at failed
  | cons item items ih =>
      rw [List.mapM_cons] at failed
      rcases (bind_eq_error_iff _ _ _).mp failed with first | ⟨result, _, failed⟩
      · exact ⟨item, List.mem_cons_self, first⟩
      · rcases (bind_eq_error_iff _ _ _).mp failed with others | ⟨results, _, impossible⟩
        · rcases ih others with ⟨other, member, stepped⟩
          exact ⟨other, List.mem_cons_of_mem item member, stepped⟩
        · cases impossible

/-- Traversing an operation fails as one of its words does. -/
theorem Operation.exists_mem_of_traverse_eq_error
    {Error Word Target : Type}
    {step : Word → Except Error Target} {operation : Operation Word} {error : Error}
    (failed : operation.traverse step = .error error) :
    ∃ word ∈ operation.words, step word = .error error := by
  cases operation with
  | value | length | changeCase | substring | orFail => cases failed
  | fallback | alternative | orFailWith | remove =>
      rcases (bind_eq_error_iff _ _ _).mp failed with stepped | ⟨target, _, impossible⟩
      · exact ⟨_, List.mem_singleton_self _, stepped⟩
      · cases impossible
  | replace scope pattern replacement =>
      rcases (bind_eq_error_iff _ _ _).mp failed with stepped | ⟨target, _, failed⟩
      · exact ⟨pattern, Operation.mem_words_replace_iff.mpr (Or.inl rfl), stepped⟩
      · rcases (bind_eq_error_iff _ _ _).mp failed with stepped | ⟨target, _, impossible⟩
        · exact ⟨replacement, Operation.mem_words_replace_iff.mpr (Or.inr rfl), stepped⟩
        · cases impossible

/-! ## Scanning -/

/-- Scanning fails at an expansion that is never closed, and for no other reason. -/
theorem exists_unterminated_of_scan
    {escapes : Bool} {text : Text} {failure : Failure}
    (failed : scan escapes text = .error failure) :
    ∃ rest place, failure = .unterminated rest place := by
  rcases scan_eq_error_iff.mp failed with ⟨front, rest, _, _, rfl⟩
  exact ⟨_, _, rfl⟩

theorem exists_scan_eq_ok_of_balanced
    {text : Text}
    (balanced : Balanced text) :
    ∃ segments, scan true text = .ok segments := by
  rcases balanced_iff_lexes.mp balanced with ⟨lexemes, lexes, _⟩
  exact ⟨_, scan_eq_ok_iff.mpr ⟨lexemes, lexes, rfl⟩⟩

/-- The bodies that scanning finds are balanced, and stand with their braces in the text. -/
theorem balanced_and_isInfix_of_mem_scan
    {escapes : Bool} {text body : Text} {segments : List Segment} {position : Nat}
    (scanned : scan escapes text = .ok segments)
    (member : ⟨.expansion body, position⟩ ∈ segments) :
    Balanced body ∧ enclose body <:+: text := by
  rcases scan_eq_ok_iff.mp scanned with ⟨lexemes, lexes, rfl⟩
  have located := List.mem_map_of_mem (f := Located.lexeme) (mem_of_mem_segmentsOf member)
  rw [map_lexeme_locate] at located
  exact ⟨lexes.balanced_of_mem located, lexes.isInfix_of_mem located⟩

/-! ## Words cut out of a body -/

/-- The text is one of the words of the operation that is read from the body. -/
def IsCutFrom (body word : Text) : Prop :=
  ∃ name operation, readBody body = .ok (name, operation) ∧ word ∈ operation.words

/-- The text is a word of the body, or a word of an expansion inside such a word, at any depth. -/
inductive IsWordOf (body : Text) : Text → Prop where
  | direct {word : Text} (isCut : IsCutFrom body word) : IsWordOf body word
  | inner {outer inner word : Text} {segments : List Segment} {position : Nat}
      (isWord : IsWordOf body outer)
      (scanned : scan true outer = .ok segments)
      (member : ⟨.expansion inner, position⟩ ∈ segments)
      (isCut : IsCutFrom inner word) :
      IsWordOf body word

theorem IsCutFrom.balanced
    {body word : Text}
    (isCut : IsCutFrom body word)
    (balanced : Balanced body) :
    Balanced word := by
  rcases isCut with ⟨name, operation, read, member⟩
  rcases isFragmented_of_readBody read balanced with ⟨_, _, each⟩
  cases operation with
  | value | length | changeCase | substring | orFail => simp [Operation.words] at member
  | fallback | alternative | orFailWith | remove =>
      exact (holds_inner_iff word).mp (each word member)
  | replace scope pattern replacement =>
      rcases Operation.mem_words_replace_iff.mp member with rfl | rfl
      · exact each.1.balanced_of_pattern
      · exact (holds_inner_iff _).mp each.2

theorem IsCutFrom.isInfix
    {body word : Text}
    (isCut : IsCutFrom body word) :
    word <:+: body := by
  rcases isCut with ⟨name, operation, read, member⟩
  exact isInfix_of_mem_readBody read member

theorem IsWordOf.balanced
    {body word : Text}
    (isWord : IsWordOf body word)
    (balanced : Balanced body) :
    Balanced word := by
  induction isWord with
  | direct isCut => exact isCut.balanced balanced
  | inner isWord scanned member isCut ih =>
      exact isCut.balanced (balanced_and_isInfix_of_mem_scan scanned member).1

/-! ## Reading -/

/-- The failure is that of a number in the text with more digits than are read. -/
def IsNumberTooLong (text : Text) (failure : Failure) : Prop :=
  ∃ digits, failure = .numberTooLong digits.length ∧
    maximumDigits < digits.length ∧
    (∀ c ∈ digits, Character.isDigit c = true) ∧
    digits <:+: text

theorem IsNumberTooLong.of_isInfix
    {inner text : Text} {failure : Failure}
    (tooLong : IsNumberTooLong inner failure)
    (stands : inner <:+: text) :
    IsNumberTooLong text failure := by
  rcases tooLong with ⟨digits, same, many, isDigit, inside⟩
  exact ⟨digits, same, many, isDigit, inside.trans stands⟩

/--
Why the text cannot be read as a piece of the expansion: the expansion is invalid, or a number in the
text is too long.
-/
def IsReadingFailure (expansion text : Text) (failure : Failure) : Prop :=
  (∃ fault, failure = .invalid expansion fault) ∨ IsNumberTooLong text failure

theorem IsReadingFailure.of_isInfix
    {expansion inner text : Text} {failure : Failure}
    (isReading : IsReadingFailure expansion inner failure)
    (stands : inner <:+: text) :
    IsReadingFailure expansion text failure := by
  exact isReading.imp_right fun tooLong => tooLong.of_isInfix stands

theorem FailsAs.isReadingFailure
    {expansion field : Text} {failure : Failure}
    (fails : FailsAs expansion field failure) :
    IsReadingFailure expansion field failure := by
  cases fails with
  | tooLong numeral many =>
      exact Or.inr
        ⟨numeral.digits, rfl, many, numeral.areDigits, numeral.isInfix_digits_written⟩
  | invalid notBlank noNumeral trimmed => exact Or.inl ⟨_, rfl⟩

theorem isReadingFailure_of_readSubstring
    {expansion text : Text} {failure : Failure}
    (failed : readSubstring expansion text = .error failure) :
    IsReadingFailure expansion text failure := by
  rcases cut : text.cutAtFirst ':' with ⟨offset, length?⟩
  have cuts := Text.cutAtFirst_eq_iff.mp cut
  rcases cuts.isInfix with ⟨offsetStands, lengthStands⟩
  cases (readSubstring_eq_error_iff cuts).mp failed with
  | offset fails => exact fails.isReadingFailure.of_isInfix offsetStands
  | length stands fails => exact fails.isReadingFailure.of_isInfix (lengthStands _ rfl)

theorem isReadingFailure_of_readOperation
    {expansion text : Text} {failure : Failure}
    (failed : readOperation expansion text = .error failure) :
    IsReadingFailure expansion text failure := by
  unfold readOperation at failed
  split at failed
  case h_6 rest =>
    split at failed
    · cases failed
    · split at failed
      · cases failed
        exact Or.inl ⟨_, rfl⟩
      · have behindColon : rest <:+: ':' :: rest := (List.suffix_cons ':' rest).isInfix
        exact (isReadingFailure_of_readSubstring failed).of_isInfix behindColon
  case h_15 =>
    split at failed
    · cases failed
    · cases failed
      exact Or.inl ⟨_, rfl⟩
  all_goals cases failed

theorem isReadingFailure_of_readNamed
    {body : Text} {failure : Failure}
    (failed : readNamed body = .error failure) :
    IsReadingFailure (enclose body) body failure := by
  unfold readNamed at failed
  split at failed
  · cases failed
    exact Or.inl ⟨_, rfl⟩
  · rename_i name rest isRead
    rcases (bind_eq_error_iff _ _ _).mp failed with failed | ⟨operation, _, impossible⟩
    · have behindName : rest <:+: body := by
        rw [(eq_of_readName? isRead).1]
        exact (List.suffix_append name rest).isInfix
      exact (isReadingFailure_of_readOperation failed).of_isInfix behindName
    · cases impossible

/-- A body that cannot be read is invalid, or a number in it is too long. -/
theorem isReadingFailure_of_readBody
    {body : Text} {failure : Failure}
    (failed : readBody body = .error failure) :
    IsReadingFailure (enclose body) body failure := by
  unfold readBody at failed
  split at failed
  · split at failed
    · cases failed
    · exact isReadingFailure_of_readNamed failed
  · exact isReadingFailure_of_readNamed failed

/-! ## Parsing -/

theorem exists_body_of_parseSegment_eq_error
    {limits : Limits} {depth : Int} {segment : Segment} {failure : Failure}
    (failed : parseSegment limits depth segment = .error failure) :
    ∃ body position, segment = ⟨.expansion body, position⟩ ∧
      parseBody limits depth body = .error failure := by
  rcases segment with ⟨content, position⟩
  cases content with
  | literal text => cases failed
  | escaped c => cases failed
  | expansion body => exact ⟨body, position, rfl, failed⟩

/-- A body fails to parse because it cannot be read, or as one of the words cut from it does. -/
theorem readBody_or_word_of_parseBody_eq_error
    {limits : Limits} {depth : Int} {body : Text} {failure : Failure}
    (failed : parseBody limits depth body = .error failure) :
    readBody body = .error failure ∨
      ∃ word, IsCutFrom body word ∧
        word.length < body.length ∧
        parseWord limits true (depth + 1) word = .error failure := by
  rw [parseBody_eq] at failed
  rcases (bind_eq_error_iff _ _ _).mp failed with failed | ⟨⟨name, operation⟩, read, failed⟩
  · exact Or.inl failed
  · cases traversed : operation.traverse (parseWord limits true (depth + 1)) with
    | ok target => simp [traversed, Except.map] at failed
    | error other =>
        simp only [traversed, Except.map, Except.error.injEq] at failed
        subst failed
        rcases Operation.exists_mem_of_traverse_eq_error traversed with ⟨word, member, parsed⟩
        have shorter := length_of_mem_readBody read member
        exact Or.inr ⟨word, ⟨name, operation, read, member⟩, by omega, parsed⟩

/-- A text fails to parse because it is too deep or is not scanned, or as one of its bodies does. -/
theorem cases_of_parseWord_eq_error
    {limits : Limits} {escapes : Bool} {depth : Int} {text : Text} {failure : Failure}
    (failed : parseWord limits escapes depth text = .error failure) :
    limits.nesting < depth ∧ failure = .ofExcess (.nesting limits.nesting) ∨
      scan escapes text = .error failure ∨
      ∃ segments body position,
        scan escapes text = .ok segments ∧
        ⟨.expansion body, position⟩ ∈ segments ∧
        parseBody limits depth body = .error failure := by
  rw [parseWord_eq] at failed
  split at failed
  · rename_i tooDeep
    cases failed
    exact Or.inl ⟨tooDeep, rfl⟩
  · rcases (bind_eq_error_iff _ _ _).mp failed with unscanned | ⟨segments, scanned, failed⟩
    · exact Or.inr (Or.inl unscanned)
    · rcases exists_mem_of_mapM_eq_error failed with ⟨segment, member, failed⟩
      rcases exists_body_of_parseSegment_eq_error failed with ⟨body, position, rfl, failed⟩
      exact Or.inr (Or.inr ⟨segments, body, position, scanned, member, failed⟩)

/-- Text that can be scanned is too deep, or an expansion that stands in it cannot be read. -/
theorem nesting_or_readBody_of_parseWord
    {limits : Limits} {escapes : Bool} {depth : Int} {text : Text} {segments : List Segment}
    {failure : Failure}
    (scanned : scan escapes text = .ok segments)
    (failed : parseWord limits escapes depth text = .error failure) :
    failure = .ofExcess (.nesting limits.nesting) ∨
      ∃ body, Balanced body ∧ enclose body <:+: text ∧ readBody body = .error failure := by
  induction size : text.length using Nat.strong_induction_on
    generalizing escapes depth text segments with
  | h size ih =>
  subst size
  rcases cases_of_parseWord_eq_error failed with
    ⟨_, tooDeep⟩ | unscanned | ⟨others, body, position, scannedAlso, member, failed⟩
  · exact Or.inl tooDeep
  · rw [scanned] at unscanned
    cases unscanned
  · rcases balanced_and_isInfix_of_mem_scan scannedAlso member with ⟨balanced, stands⟩
    have bodyShorter := length_of_mem_scan scannedAlso member
    rcases readBody_or_word_of_parseBody_eq_error failed with failed | ⟨word, isCut, shorter, failed⟩
    · exact Or.inr ⟨body, balanced, stands, failed⟩
    · rcases exists_scan_eq_ok_of_balanced (isCut.balanced balanced) with ⟨inner, innerScanned⟩
      apply (ih word.length (by omega) innerScanned failed rfl).imp_right
      rintro ⟨deeper, deeperBalanced, inWord, failed⟩
      have inBody : enclose deeper <:+: body := inWord.trans isCut.isInfix
      exact ⟨deeper, deeperBalanced, (inBody.trans (isInfix_enclose body)).trans stands, failed⟩

/--
Parsing a template fails because of its limits, at an expansion that is never closed or at one that
stands in it and cannot be read.
-/
theorem cases_of_parseText_eq_error
    {limits : Limits} {text : Text} {failure : Failure}
    (failed : parseText limits text = .error failure) :
    failure = .ofExcess (.size text.length limits.size) ∨
      failure = .ofExcess (.nesting limits.nesting) ∨
      scan false text = .error failure ∨
      ∃ body, Balanced body ∧ enclose body <:+: text ∧
        IsReadingFailure (enclose body) body failure := by
  rw [parseText] at failed
  split at failed
  · cases failed
    exact Or.inl rfl
  · rcases cases_of_parseWord_eq_error failed with
      ⟨_, tooDeep⟩ | unscanned | ⟨_, _, _, scanned, _, _⟩
    · exact Or.inr (Or.inl tooDeep)
    · exact Or.inr (Or.inr (Or.inl unscanned))
    · rcases nesting_or_readBody_of_parseWord scanned failed with
        tooDeep | ⟨body, balanced, stands, failed⟩
      · exact Or.inr (Or.inl tooDeep)
      · have isReading := isReadingFailure_of_readBody failed
        exact Or.inr (Or.inr (Or.inr ⟨body, balanced, stands, isReading⟩))

/-! ## Expansions that are never closed -/

/-- Parsing text that can be scanned never meets an expansion that is not closed. -/
theorem parseWord_ne_unterminated
    {limits : Limits} {escapes : Bool} {depth : Int} {text : Text} {segments : List Segment}
    (scanned : scan escapes text = .ok segments)
    (rest : Text)
    (position : Int) :
    parseWord limits escapes depth text ≠ .error (.unterminated rest position) := by
  intro failed
  rcases nesting_or_readBody_of_parseWord scanned failed with tooDeep | ⟨body, _, _, failed⟩
  · exact Failure.ofExcess_ne_unterminated _ rest position tooDeep.symm
  · rcases isReadingFailure_of_readBody failed with ⟨fault, same⟩ | ⟨digits, same, _⟩
    · cases same
    · cases same

/--
A template within the size limit has an expansion that is never closed exactly when scanning it as a
whole finds one, and it is the same one.  That failure comes before all others, and no word cut out
of a closed body, at any depth, has such an expansion.
-/
theorem parseText_eq_unterminated_iff_scan
    {limits : Limits} {text : Text}
    (fits : text.length ≤ limits.size)
    (nests : 0 ≤ limits.nesting) :
    (∀ rest position,
      parseText limits text = .error (.unterminated rest position) ↔
        scan false text = .error (.unterminated rest position)) ∧
    ((∃ segments, scan false text = .ok segments) ∨
      ∃ rest position,
        scan false text = .error (.unterminated rest position) ∧
        parseText limits text = .error (.unterminated rest position)) ∧
    ∀ opened body after word,
      closeBody? opened = some (body, after) → IsWordOf body word →
        ∃ segments, scan true word = .ok segments := by
  have parsed : parseText limits text = parseWord limits false 0 text := by
    rw [parseText, if_neg (Int.not_lt.mpr fits)]
  have first : ∀ failure, scan false text = .error failure →
      parseText limits text = .error failure := by
    intro failure failed
    rw [parsed, parseWord_eq, if_neg (Int.not_lt.mpr nests), failed]
    rfl
  refine ⟨?_, ?_, ?_⟩
  · intro rest position
    constructor
    · intro failed
      cases scanned : scan false text with
      | ok segments =>
          rw [parsed] at failed
          exact (parseWord_ne_unterminated scanned rest position failed).elim
      | error failure =>
          rw [first failure scanned] at failed
          cases failed
          rfl
    · exact first _
  · cases scanned : scan false text with
    | ok segments => exact Or.inl ⟨segments, rfl⟩
    | error failure =>
        rcases exists_unterminated_of_scan scanned with ⟨rest, place, rfl⟩
        exact Or.inr ⟨rest, place, rfl, first _ scanned⟩
  · intro opened body after word closed isWord
    have balanced := (closeBody?_eq_some_iff.mp closed).1
    exact exists_scan_eq_ok_of_balanced (isWord.balanced balanced)

/--
A body that cannot be read stands in front of an expansion that is never closed, and a quoted brace
is the replacement in a closed body.
-/
theorem parseText_unterminated_behind_badSubstitution :
    parseText {} (enclose ['-'] ++ ['$', '{', 'x']) = .error (.unterminated ['$', '{', 'x'] 4) ∧
      ∃ segments, scan true ['\\', '}'] = .ok segments := by
  have scanned :
      scan false (enclose ['-'] ++ ['$', '{', 'x']) =
        .error (.unterminated ['$', '{', 'x'] 4) := by
    cbv
  have closed :
      closeBody? ['x', '/', 'b', '/', '\\', '}', '}'] =
        some (['x', '/', 'b', '/', '\\', '}'], []) := rfl
  have read :
      readBody ['x', '/', 'b', '/', '\\', '}'] =
        .ok (['x'], .replace .first ['b'] ['\\', '}']) := by
    cbv
  have isCut : IsCutFrom ['x', '/', 'b', '/', '\\', '}'] ['\\', '}'] :=
    ⟨_, _, read, by simp [Operation.words]⟩
  have fits : (enclose ['-'] ++ ['$', '{', 'x']).length ≤ ({} : Limits).size := by decide
  rcases parseText_eq_unterminated_iff_scan fits (by decide) with ⟨same, _, words⟩
  exact ⟨(same _ _).mpr scanned, words _ _ _ _ closed (IsWordOf.direct isCut)⟩

end ParameterExpansion.Template
