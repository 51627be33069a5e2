import ParameterExpansion.Proofs.Template.NormalForm
import ParameterExpansion.Proofs.Template.Separation
import ParameterExpansion.Proofs.Template.SubstringFields

/-!
# The words in a body

A balanced body is cut into a name, an operator and the texts of words.  Each of these texts is
balanced again, so it is read as the body was: nothing that was quoted, doubled or inside an inner
expansion changes its role.  The pattern of a replacement has no slash of its own.  The operator
that was read is the longest, which is why its words do not start with what would have lengthened
it.
-/

namespace ParameterExpansion.Template

/-- The text is read into lexemes that may be part of a word at a place. -/
def Place.Holds (place : Place) (text : Text) : Prop :=
  ∃ lexemes, Lexes place.quotes text lexemes ∧ ∀ c, .plain c ∈ lexemes → place.Allows c

theorem holds_inner_iff (text : Text) :
    Place.inner.Holds text ↔ Balanced text := by
  exact balanced_iff_lexes.symm

theorem Place.Holds.balanced_of_pattern
    {text : Text}
    (holds : Place.pattern.Holds text) :
    Balanced text := by
  rcases holds with ⟨lexemes, lexes, allowed⟩
  apply balanced_iff_lexes.mpr
  exact ⟨lexemes, lexes, fun c member => ⟨(allowed c member).1, (allowed c member).2.1⟩⟩

/-- The character starts the text. -/
def isFirst (c first : Char) : Bool :=
  first == c

theorem startsWith_isFirst_iff
    (c : Char)
    (text : Text) :
    StartsWith isFirst c text ↔ ∃ rest, text = c :: rest := by
  cases text with
  | nil => simp [StartsWith]
  | cons first rest => simp [StartsWith, isFirst]

/-! ## Replacements -/

/-- A balanced text is divided into a text without a free slash and another balanced text. -/
theorem holds_of_splitFree
    {text pattern : Text} {replacement? : Option Text}
    (balanced : Balanced text)
    (parts : splitFree '/' text = (pattern, replacement?)) :
    Place.pattern.Holds pattern ∧ Place.inner.Holds (replacement?.getD []) ∧
      text = pattern ++ (replacement?.map ('/' :: ·)).getD [] := by
  rcases balanced_iff_lexes.mp balanced with ⟨lexemes, lexes, clean⟩
  by_cases divides : .plain '/' ∈ lexemes
  · rcases List.eq_append_cons_of_mem divides with ⟨before, after, rfl, absent⟩
    have cut := lexes.cutAtSeparator?_eq_some (by decide) absent []
    rcases lexes.split with ⟨head, tail, rfl, headLexes, tailLexes⟩
    rw [headLexes.spelling, tailLexes.spelling] at cut
    obtain ⟨rfl, rfl⟩ : head = pattern ∧ some tail = replacement? := by
      simpa [splitFree, cut] using parts
    refine ⟨⟨before, headLexes, ?_⟩, ⟨after, tailLexes, ?_⟩, rfl⟩
    · intro c member
      have bare := clean c (List.mem_append_left _ member)
      refine ⟨bare.1, bare.2, ?_⟩
      rintro rfl
      exact absent member
    · intro c member
      exact clean c (List.mem_append_right _ (List.mem_cons_of_mem _ member))
  · have cut := lexes.cutAtSeparator?_eq_none divides []
    obtain ⟨rfl, rfl⟩ : text = pattern ∧ none = replacement? := by
      simpa [splitFree, cut] using parts
    refine ⟨⟨lexemes, lexes, ?_⟩, (holds_inner_iff _).mpr Balanced.nil, by simp⟩
    intro c member
    have bare := clean c member
    refine ⟨bare.1, bare.2, ?_⟩
    rintro rfl
    exact divides member

theorem eachWord_readReplacement
    {text : Text}
    (balanced : Balanced text)
    (scope : Scope) :
    (readReplacement scope text).EachWord Place.Holds := by
  rcases parts : splitFree '/' text with ⟨pattern, replacement?⟩
  rcases holds_of_splitFree balanced parts with ⟨patternHolds, replacementHolds, _⟩
  rw [readReplacement, parts]
  exact ⟨patternHolds, replacementHolds⟩

/-- The operator of a replacement of the first occurrence is no longer than one slash. -/
theorem isDistinct_readReplacement
    {text : Text} {scope : Scope}
    (balanced : Balanced text)
    (shortest : scope = .first → ∀ c ∈ text.head?, c ≠ '/' ∧ c ≠ '#' ∧ c ≠ '%') :
    (readReplacement scope text).IsDistinct isFirst := by
  rcases parts : splitFree '/' text with ⟨pattern, replacement?⟩
  rcases holds_of_splitFree balanced parts with ⟨_, _, whole⟩
  rw [readReplacement, parts]
  intro first
  have heads : ∀ c ∈ text.head?, c ≠ '/' ∧ c ≠ '#' ∧ c ≠ '%' := shortest first
  cases pattern with
  | nil =>
      refine ⟨by simp [StartsWith], by simp [StartsWith], ?_⟩
      intro _
      cases replacement? with
      | none => rfl
      | some replacement =>
          have same : text = '/' :: replacement := by simpa using whole
          subst same
          exact ((heads '/' rfl).1 rfl).elim
  | cons c pattern =>
      have head := heads c (by simp [whole])
      refine ⟨?_, ?_, by simp⟩
      · simpa [StartsWith, isFirst] using head.2.1
      · simpa [StartsWith, isFirst] using head.2.2

/-! ## Operations -/

/-- What holds of an operation that was read from balanced text. -/
def Operation.IsFragmented (operation : Operation Text) : Prop :=
  operation.IsDistinct isFirst ∧ operation.EachWord Place.Holds

theorem holds_of_mem_singleton
    {word : Text}
    (balanced : Balanced word) :
    ∀ other ∈ [word], Place.inner.Holds other := by
  intro other member
  rcases List.mem_singleton.mp member with rfl
  exact (holds_inner_iff other).mpr balanced

theorem isFragmented_remove
    {side : Glob.Side} {longest : Bool} {pattern : Text}
    (balanced : Balanced pattern)
    (shortest : longest = false → ∀ rest, pattern ≠ sideSign side :: rest) :
    (Operation.remove side longest pattern).IsFragmented := by
  refine ⟨?_, holds_of_mem_singleton balanced⟩
  intro isShort starts
  rcases (startsWith_isFirst_iff _ _).mp starts with ⟨rest, longer⟩
  exact shortest isShort rest longer

theorem isFragmented_readReplacement
    {scope : Scope} {text : Text}
    (balanced : Balanced text)
    (shortest : scope = .first → ∀ c ∈ text.head?, c ≠ '/' ∧ c ≠ '#' ∧ c ≠ '%') :
    (readReplacement scope text).IsFragmented := by
  exact ⟨isDistinct_readReplacement balanced shortest, eachWord_readReplacement balanced scope⟩

theorem isFragmented_of_readPresence?
    {colon : Bool} {text : Text} {operation : Operation Text}
    (read : readPresence? colon text = some operation)
    (balanced : Balanced text) :
    operation.IsFragmented := by
  unfold readPresence? at read
  split at read
  case h_1 =>
    cases read
    exact ⟨True.intro, holds_of_mem_singleton (balanced.of_cons (by decide))⟩
  case h_2 =>
    cases read
    exact ⟨True.intro, holds_of_mem_singleton (balanced.of_cons (by decide))⟩
  case h_3 =>
    cases read
    exact ⟨True.intro, holds_of_mem_singleton (balanced.of_cons (by decide))⟩
  case h_4 =>
    cases read
    exact ⟨True.intro, by simp [Operation.EachWord, Operation.words]⟩
  case h_5 message nonempty =>
    cases read
    exact ⟨nonempty, holds_of_mem_singleton (balanced.of_cons (by decide))⟩
  case h_6 => simp at read

theorem isFragmented_of_readSubstring
    {expansion text : Text} {operation : Operation Text}
    (read : readSubstring expansion text = .ok operation) :
    operation.IsFragmented := by
  rcases cut : text.cutAtFirst ':' with ⟨offset, length?⟩
  have cuts := Text.cutAtFirst_eq_iff.mp cut
  rcases (readSubstring_eq_ok_iff cuts).mp read with ⟨start, count?, stands, related, rfl⟩
  refine ⟨⟨stands.isReadable, ?_⟩, by simp [Operation.EachWord, Operation.words]⟩
  cases related with
  | none => simp
  | some standsLength => simpa using standsLength.isReadable

theorem isFragmented_of_readOperation
    {expansion text : Text} {operation : Operation Text}
    (read : readOperation expansion text = .ok operation)
    (balanced : Balanced text) :
    operation.IsFragmented := by
  unfold readOperation at read
  split at read
  case h_6 rest =>
    split at read
    · rename_i operation presence
      cases read
      exact isFragmented_of_readPresence? presence (balanced.of_cons (by decide))
    · split at read
      · simp at read
      · exact isFragmented_of_readSubstring read
  case h_7 rest =>
    cases read
    have inner := (balanced.of_cons (by decide)).of_cons (by decide)
    exact isFragmented_readReplacement inner (by simp)
  case h_8 rest =>
    cases read
    have inner := (balanced.of_cons (by decide)).of_cons (by decide)
    exact isFragmented_readReplacement inner (by simp)
  case h_9 rest =>
    cases read
    have inner := (balanced.of_cons (by decide)).of_cons (by decide)
    exact isFragmented_readReplacement inner (by simp)
  case h_10 rest notAll notStart notEnd =>
    cases read
    apply isFragmented_readReplacement (balanced.of_cons (by decide))
    intro _ c isHead
    rcases List.head?_eq_some_iff.mp isHead with ⟨tail, rfl⟩
    refine ⟨?_, ?_, ?_⟩
    · rintro rfl
      exact notAll tail rfl
    · rintro rfl
      exact notStart tail rfl
    · rintro rfl
      exact notEnd tail rfl
  case h_11 pattern =>
    cases read
    have inner := (balanced.of_cons (by decide)).of_cons (by decide)
    exact isFragmented_remove inner (by simp)
  case h_12 pattern notLonger =>
    cases read
    exact isFragmented_remove (balanced.of_cons (by decide)) fun _ => notLonger
  case h_13 pattern =>
    cases read
    have inner := (balanced.of_cons (by decide)).of_cons (by decide)
    exact isFragmented_remove inner (by simp)
  case h_14 pattern notLonger =>
    cases read
    exact isFragmented_remove (balanced.of_cons (by decide)) fun _ => notLonger
  case h_15 =>
    split at read
    · rename_i operation presence
      cases read
      exact isFragmented_of_readPresence? presence balanced
    · simp at read
  all_goals
    cases read
    exact ⟨True.intro, by simp [Operation.EachWord, Operation.words]⟩

/-! ## Bodies -/

theorem isName_of_readName?
    {text rest : Text} {name : Name}
    (read : readName? text = some (name, rest)) :
    IsName name := by
  cases text with
  | nil => simp [readName?] at read
  | cons c tail =>
      rw [readName?] at read
      split at read
      · rename_i starts
        cases read
        exact ⟨starts, List.all_takeWhile⟩
      · simp at read

theorem IsName.continuesName_of_mem
    {name : Name} {c : Char}
    (isName : IsName name)
    (member : c ∈ name) :
    continuesName c = true := by
  cases name with
  | nil => exact isName.elim
  | cons first rest =>
      rcases List.mem_cons.mp member with rfl | member
      · simp [continuesName, isName.1]
      · exact List.all_eq_true.mp isName.2 c member

theorem IsName.isOrdinary
    {name : Name} {c : Char}
    (isName : IsName name)
    (member : c ∈ name) :
    IsOrdinary c :=
  IsOrdinary.of_class (by decide) (by decide) (by decide) (isName.continuesName_of_mem member)

theorem isFragmented_of_readNamed
    {body : Text} {name : Name} {operation : Operation Text}
    (read : readNamed body = .ok (name, operation))
    (balanced : Balanced body) :
    IsName name ∧ operation.IsFragmented := by
  unfold readNamed at read
  split at read
  · cases read
  · rename_i found rest isRead
    rcases (bind_eq_ok_iff _ _ _).mp read with ⟨inner, readInner, same⟩
    cases same
    have isName := isName_of_readName? isRead
    rw [(eq_of_readName? isRead).1] at balanced
    have innerBalanced := balanced.of_append_ordinary fun _ member => isName.isOrdinary member
    exact ⟨isName, isFragmented_of_readOperation readInner innerBalanced⟩

/-- A balanced body is read as a name and an operation whose words may stand where they do. -/
theorem isFragmented_of_readBody
    {body : Text} {name : Name} {operation : Operation Text}
    (read : readBody body = .ok (name, operation))
    (balanced : Balanced body) :
    IsName name ∧ operation.IsFragmented := by
  unfold readBody at read
  split at read
  · split at read
    · rename_i isRead
      cases read
      refine ⟨isName_of_readName? isRead, True.intro, ?_⟩
      simp [Operation.EachWord, Operation.words]
    · exact isFragmented_of_readNamed read balanced
  · exact isFragmented_of_readNamed read balanced

end ParameterExpansion.Template
