import ParameterExpansion.Proofs.Template.Fragments
import ParameterExpansion.Proofs.Template.Printing

/-!
# Written bodies are read back

The body of an expansion, written from a name and an operation, is read as that name and that
operation.  The name ends where it should because no operator begins with a character that continues
a name, and the operator is the one that was written because the word behind it does not lengthen
it.  Written bodies are balanced, so they can stand inside a word again.
-/

namespace ParameterExpansion.Template

/-! ## Names -/

theorem readName?_append
    {name rest : Text}
    (isName : IsName name)
    (ends : ∀ c ∈ rest.head?, continuesName c = false) :
    readName? (name ++ rest) = some (name, rest) := by
  cases name with
  | nil => exact isName.elim
  | cons first name =>
      have continues : ∀ c ∈ name, continuesName c = true := List.all_eq_true.mp isName.2
      rw [List.cons_append, readName?, if_pos isName.1,
        Text.takeWhile_append_of_head? continues ends, Text.dropWhile_append_of_head? continues ends]

theorem continuesName_head_colonText
    {colon : Bool} {sign c : Char} {word : Text}
    (stops : continuesName sign = false)
    (first : c ∈ (colonText colon ++ sign :: word).head?) :
    continuesName c = false := by
  cases colon with
  | true =>
      have same : ':' = c := by simpa [colonText] using first
      subst same
      decide
  | false =>
      have same : sign = c := by simpa [colonText] using first
      subst same
      exact stops

/-- No operator begins with a character that continues a name. -/
theorem continuesName_head_writeOperation
    {operation : Operation Text} {c : Char}
    (first : c ∈ (writeOperation operation).head?) :
    continuesName c = false := by
  cases operation with
  | value | length => simp [writeOperation] at first
  | changeCase target everywhere =>
      have same : target.character = c := by
        cases everywhere <;> simpa [writeOperation] using first
      subst same
      cases target <;> decide
  | substring offset length? =>
      have same : ':' = c := by simpa [writeOperation] using first
      subst same
      decide
  | fallback colon sign word =>
      apply continuesName_head_colonText _ first
      cases sign <;> decide
  | alternative colon word => exact continuesName_head_colonText (by decide) first
  | orFail colon => exact continuesName_head_colonText (by decide) first
  | orFailWith colon message => exact continuesName_head_colonText (by decide) first
  | remove side longest pattern =>
      have same : sideSign side = c := by
        cases longest <;> simpa [writeOperation] using first
      subst same
      cases side <;> decide
  | replace scope pattern replacement =>
      have same : '/' = c := by simpa [writeOperation] using first
      subst same
      decide

/-! ## Substrings -/

/-- Text that does not begin with a sign of presence makes a substring of what it follows. -/
theorem readOperation_colon
    {text : Text}
    (nonempty : text ≠ [])
    (unsigned : ∀ c ∈ text.head?, c ∉ ['=', '-', '+', '?'])
    (expansion : Text) :
    readOperation expansion (':' :: text) = readSubstring expansion text := by
  have noSign : readPresence? true text = none := by
    unfold readPresence?
    split
    case h_6 => rfl
    all_goals exact absurd (unsigned _ rfl) (by decide)
  have notEmpty : ¬ text.isEmpty = true := by simpa using nonempty
  simp only [readOperation, noSign, if_neg notEmpty]

theorem eq_minus_or_isDigit_of_mem_ofInt
    {number : Int} {c : Char}
    (member : c ∈ Text.Decimal.ofInt number) :
    c = '-' ∨ c.isDigit = true := by
  cases number with
  | ofNat magnitude => exact Or.inr (isDigit_of_mem_ofNat member)
  | negSucc magnitude =>
      rcases List.mem_cons.mp member with rfl | member
      · exact Or.inl rfl
      · exact Or.inr (isDigit_of_mem_ofNat member)

theorem isOrdinary_of_mem_ofInt
    {number : Int} {c : Char}
    (member : c ∈ Text.Decimal.ofInt number) :
    IsOrdinary c := by
  rcases eq_minus_or_isDigit_of_mem_ofInt member with rfl | digit
  · decide
  · exact IsOrdinary.of_class (by decide) (by decide) (by decide) digit

theorem isOrdinary_of_mem_lengthText
    {length? : Option Int} {c : Char}
    (member : c ∈ lengthText length?) :
    IsOrdinary c := by
  cases length? with
  | none => simp [lengthText] at member
  | some length =>
      rcases List.mem_cons.mp member with rfl | member
      · decide
      · exact isOrdinary_of_mem_ofInt member

/-- A number behind a blank is cut off by a colon. -/
theorem colon_not_mem_blank_ofInt (number : Int) :
    ':' ∉ ' ' :: Text.Decimal.ofInt number := by
  intro member
  rcases List.mem_cons.mp member with same | member
  · exact absurd same (by decide)
  · rcases eq_minus_or_isDigit_of_mem_ofInt member with same | digit
    · exact absurd same (by decide)
    · exact absurd digit (by decide)

theorem cutsAt_lengthText (offset : Int) (length? : Option Int) :
    Text.CutsAt ':' (' ' :: Text.Decimal.ofInt offset ++ lengthText length?)
      (' ' :: Text.Decimal.ofInt offset) (length?.map Text.Decimal.ofInt) := by
  cases length? with
  | none =>
      rw [lengthText, List.append_nil]
      exact .whole (colon_not_mem_blank_ofInt offset)
  | some length => exact .parts (colon_not_mem_blank_ofInt offset) (Text.Decimal.ofInt length)

theorem standsFor_blank_ofInt
    {number : Int}
    (readable : IsReadable number) :
    StandsFor (' ' :: Text.Decimal.ofInt number) number := by
  have padded : ∀ c ∈ [' '], isPadding c = true := List.forall_mem_singleton.mpr rfl
  exact standsFor_append_ofInt padded readable

/-- An offset behind a blank is read back, and so is a length behind a colon. -/
theorem readSubstring_ofInt
    {offset : Int} {length? : Option Int}
    (readable : IsReadable offset)
    (readableLength : ∀ length ∈ length?, IsReadable length)
    (expansion : Text) :
    readSubstring expansion (' ' :: Text.Decimal.ofInt offset ++ lengthText length?) =
      .ok (.substring offset length?) := by
  apply (readSubstring_eq_ok_iff (cutsAt_lengthText offset length?)).mpr
  refine ⟨offset, length?, standsFor_blank_ofInt readable, ?_, rfl⟩
  cases length? with
  | none => exact .none
  | some length =>
      have padded : ∀ c ∈ ([] : Text), isPadding c = true := by simp
      exact .some (standsFor_append_ofInt padded (readableLength length rfl))

/-! ## Replacements -/

/-- Text that may stand as the pattern of a replacement does not start with its separator. -/
theorem Place.Holds.head_ne_slash
    {pattern : Text}
    (holds : Place.pattern.Holds pattern) :
    ∀ c ∈ pattern.head?, c ≠ '/' := by
  rcases holds with ⟨lexemes, lexes, allowed⟩
  rintro c first rfl
  cases lexes with
  | nil => simp at first
  | pair lexes => simp at first
  | expansion balanced lexes => simp at first
  | escaped quotes lexes => simp at first
  | plain marksNot quotesNot lexes =>
      obtain rfl : _ = '/' := by simpa using first
      exact (allowed '/' List.mem_cons_self).2.2 rfl

/-- A slash between pattern and replacement divides them, also when the replacement is empty. -/
theorem readReplacement_append_slash
    {pattern replacement : Text}
    (patternHolds : Place.pattern.Holds pattern)
    (balanced : Balanced replacement)
    (scope : Scope) :
    readReplacement scope (pattern ++ '/' :: replacement) =
      .replace scope pattern replacement := by
  rcases patternHolds with ⟨before, patternLexes, allowed⟩
  rcases balanced_iff_lexes.mp balanced with ⟨after, replacementLexes, _⟩
  have absent : .plain '/' ∉ before := fun member => (allowed '/' member).2.2 rfl
  have clean : .plain '\\' ∉ before := fun member => (allowed '\\' member).1 rfl
  have slash : IsOrdinary '/' ∧ '/' ≠ '{' := by decide
  have joined := patternLexes.join replacementLexes slash.1 slash.2 clean
  have cut := joined.cutAtSeparator?_eq_some (by decide) absent []
  rw [patternLexes.spelling, replacementLexes.spelling] at cut
  rw [readReplacement, splitFree, cut]
  rfl

/-- Pattern and replacement are divided where they were put together. -/
theorem readReplacement_append
    {pattern replacement : Text}
    (patternHolds : Place.pattern.Holds pattern)
    (replacementHolds : Place.inner.Holds replacement)
    (scope : Scope) :
    readReplacement scope (pattern ++ replacementText replacement) =
      .replace scope pattern replacement := by
  by_cases empty : replacement = []
  · rcases patternHolds with ⟨before, patternLexes, allowed⟩
    have absent : .plain '/' ∉ before := fun member => (allowed '/' member).2.2 rfl
    have cut := patternLexes.cutAtSeparator?_eq_none absent []
    rw [replacementText, if_pos empty, List.append_nil, readReplacement, splitFree, cut, empty]
    rfl
  · rw [replacementText, if_neg empty]
    have balanced := (holds_inner_iff replacement).mp replacementHolds
    exact readReplacement_append_slash patternHolds balanced scope

/-! ## Operations -/

/-- A removal is read with the sign that was written once or twice. -/
theorem readOperation_remove
    {side : Glob.Side} {longest : Bool} {pattern : Text}
    (distinct : (Operation.remove side longest pattern).IsDistinct isFirst)
    (expansion : Text) :
    readOperation expansion (writeOperation (.remove side longest pattern)) =
      .ok (.remove side longest pattern) := by
  cases longest with
  | true => cases side <;> rfl
  | false =>
      have shortest : ∀ rest, pattern ≠ sideSign side :: rest := by
        intro rest same
        exact distinct rfl ((startsWith_isFirst_iff _ _).mpr ⟨rest, same⟩)
      cases side with
      | leading =>
          show readOperation expansion ('#' :: pattern) = _
          rw [readOperation]
          exact shortest
      | trailing =>
          show readOperation expansion ('%' :: pattern) = _
          rw [readOperation]
          exact shortest

/-- The operator of a replacement is read if what follows does not lengthen it. -/
theorem readOperation_slash
    {scope : Scope} {text : Text}
    (shortest : scope = .first → ∀ c ∈ text.head?, c ≠ '/' ∧ c ≠ '#' ∧ c ≠ '%')
    (expansion : Text) :
    readOperation expansion ('/' :: scope.suffix ++ text) = .ok (readReplacement scope text) := by
  cases scope with
  | all => rfl
  | atStart => rfl
  | atEnd => rfl
  | first =>
      have heads := shortest rfl
      show readOperation expansion ('/' :: text) = _
      rw [readOperation]
      · rintro rest rfl
        exact (heads '/' rfl).1 rfl
      · rintro rest rfl
        exact (heads '#' rfl).2.1 rfl
      · rintro rest rfl
        exact (heads '%' rfl).2.2 rfl

/-- A replacement is read with the scope that was written. -/
theorem readOperation_replace
    {scope : Scope} {pattern replacement : Text}
    (distinct : (Operation.replace scope pattern replacement).IsDistinct isFirst)
    (patternHolds : Place.pattern.Holds pattern)
    (replacementHolds : Place.inner.Holds replacement)
    (expansion : Text) :
    readOperation expansion (writeOperation (.replace scope pattern replacement)) =
      .ok (.replace scope pattern replacement) := by
  rw [writeOperation, List.append_assoc, readOperation_slash,
    readReplacement_append patternHolds replacementHolds scope]
  intro isFirstOnly c first
  rcases distinct isFirstOnly with ⟨notStart, notEnd, emptyPattern⟩
  cases pattern with
  | nil => simp [emptyPattern rfl, replacementText] at first
  | cons other rest =>
      have same : other = c := by simpa using first
      subst same
      refine ⟨patternHolds.head_ne_slash other rfl, ?_, ?_⟩
      · rintro rfl
        exact notStart ((startsWith_isFirst_iff _ _).mpr ⟨rest, rfl⟩)
      · rintro rfl
        exact notEnd ((startsWith_isFirst_iff _ _).mpr ⟨rest, rfl⟩)

/-- What is written behind a name is read as the operation it was written for. -/
theorem readOperation_writeOperation
    {operation : Operation Text}
    (fragmented : operation.IsFragmented)
    (named : operation ≠ .length)
    (expansion : Text) :
    readOperation expansion (writeOperation operation) = .ok operation := by
  rcases fragmented with ⟨distinct, each⟩
  cases operation with
  | value => rfl
  | length => exact (named rfl).elim
  | changeCase target everywhere => cases target <;> cases everywhere <;> rfl
  | substring offset length? =>
      rw [← readSubstring_ofInt distinct.1 distinct.2 expansion]
      rfl
  | fallback colon sign word => cases colon <;> cases sign <;> rfl
  | alternative colon word => cases colon <;> rfl
  | orFail colon => cases colon <;> rfl
  | orFailWith colon message =>
      cases message with
      | nil => exact (distinct rfl).elim
      | cons first rest => cases colon <;> rfl
  | remove side longest pattern => exact readOperation_remove distinct expansion
  | replace scope pattern replacement =>
      exact readOperation_replace distinct each.1 each.2 expansion

/-! ## Bodies -/

theorem writeBody_eq_append
    {operation : Operation Text}
    (named : operation ≠ .length)
    (name : Name) :
    writeBody name operation = name ++ writeOperation operation := by
  cases operation with
  | length => exact (named rfl).elim
  | _ => rfl

/-- Behind a name that ends where it should, a body is read as its operation is, or fails as it does. -/
theorem readBody_append
    {name : Name} {rest : Text}
    (isName : IsName name)
    (ends : ∀ c ∈ rest.head?, continuesName c = false) :
    readBody (name ++ rest) =
      (readOperation (enclose (name ++ rest)) rest).map fun operation => (name, operation) := by
  have read := readName?_append isName ends
  have named :
      readNamed (name ++ rest) =
        (readOperation (enclose (name ++ rest)) rest).map fun operation => (name, operation) := by
    simp only [readNamed, read]
    cases readOperation (enclose (name ++ rest)) rest <;> rfl
  rw [readBody, named]
  intro tail same
  rw [same] at read
  simp [readName?, startsName] at read

/-- A written body is read as the name and the operation it was written for. -/
theorem readBody_writeBody
    {name : Name} {operation : Operation Text}
    (isName : IsName name)
    (fragmented : operation.IsFragmented) :
    readBody (writeBody name operation) = .ok (name, operation) := by
  by_cases isLength : operation = .length
  · have read : readName? name = some (name, []) := by
      have ends : ∀ c ∈ ([] : Text).head?, continuesName c = false := by simp
      simpa using readName?_append isName ends
    subst isLength
    show readBody ('#' :: name) = _
    simp only [readBody, read]
  · have ends : ∀ c ∈ (writeOperation operation).head?, continuesName c = false :=
      fun c first => continuesName_head_writeOperation first
    rw [writeBody_eq_append isLength, readBody_append isName ends,
      readOperation_writeOperation fragmented isLength]
    rfl

/-! ## Balance -/

theorem balanced_of_isOrdinary
    {text : Text}
    (ordinary : ∀ c ∈ text, IsOrdinary c) :
    Balanced text := by
  simpa using Balanced.append_ordinary ordinary Balanced.nil

theorem balanced_colonText_append
    {sign : Char} {word : Text}
    (ordinary : IsOrdinary sign)
    (balanced : Balanced word)
    (colon : Bool) :
    Balanced (colonText colon ++ sign :: word) := by
  have front : ∀ c ∈ colonText colon, IsOrdinary c := by
    cases colon with
    | false => simp [colonText]
    | true => exact List.forall_mem_singleton.mpr (by decide)
  apply Balanced.append_ordinary front
  exact Balanced.plain ordinary.1 ordinary.2.2 (ordinary.not_isMark word) balanced

theorem isOrdinary_of_mem_suffix
    {scope : Scope} {c : Char}
    (member : c ∈ scope.suffix) :
    IsOrdinary c := by
  cases scope with
  | first => simp [Scope.suffix] at member
  | all =>
      rcases List.mem_singleton.mp member with rfl
      decide
  | atStart =>
      rcases List.mem_singleton.mp member with rfl
      decide
  | atEnd =>
      rcases List.mem_singleton.mp member with rfl
      decide

theorem Balanced.append_replacementText
    {pattern replacement : Text}
    (patternBalanced : Balanced pattern)
    (replacementBalanced : Balanced replacement) :
    Balanced (pattern ++ replacementText replacement) := by
  by_cases empty : replacement = []
  · rw [replacementText, if_pos empty, List.append_nil]
    exact patternBalanced
  · rw [replacementText, if_neg empty]
    exact patternBalanced.join replacementBalanced (by decide) (by decide)

theorem balanced_writeOperation
    {operation : Operation Text}
    (each : operation.EachWord Place.Holds) :
    Balanced (writeOperation operation) := by
  cases operation with
  | value => exact Balanced.nil
  | length => exact Balanced.nil
  | changeCase target everywhere =>
      have letter : IsOrdinary target.character := by
        cases target <;> decide
      apply balanced_of_isOrdinary
      cases everywhere <;> simp [writeOperation, letter]
  | substring offset length? =>
      apply balanced_of_isOrdinary
      intro c member
      rw [writeOperation, List.mem_append, List.mem_cons, List.mem_cons] at member
      rcases member with (rfl | rfl | member) | member
      · decide
      · decide
      · exact isOrdinary_of_mem_ofInt member
      · exact isOrdinary_of_mem_lengthText member
  | fallback colon sign word =>
      have balanced := (holds_inner_iff word).mp (each word (List.mem_singleton_self _))
      apply balanced_colonText_append _ balanced
      cases sign <;> decide
  | alternative colon word =>
      have balanced := (holds_inner_iff word).mp (each word (List.mem_singleton_self _))
      exact balanced_colonText_append (by decide) balanced colon
  | orFail colon => exact balanced_colonText_append (by decide) Balanced.nil colon
  | orFailWith colon message =>
      have balanced := (holds_inner_iff message).mp (each message (List.mem_singleton_self _))
      exact balanced_colonText_append (by decide) balanced colon
  | remove side longest pattern =>
      have balanced := (holds_inner_iff pattern).mp (each pattern (List.mem_singleton_self _))
      have sign : ∀ c ∈ [sideSign side], IsOrdinary c := by
        rw [List.forall_mem_singleton]
        cases side <;> decide
      have once := Balanced.append_ordinary sign balanced
      cases longest with
      | false => exact once
      | true => exact Balanced.append_ordinary sign once
  | replace scope pattern replacement =>
      have balanced := each.1.balanced_of_pattern
      have slash : IsOrdinary '/' := by decide
      rw [writeOperation, List.append_assoc]
      apply Balanced.append_ordinary
      · exact List.forall_mem_cons.mpr ⟨slash, fun c => isOrdinary_of_mem_suffix⟩
      · exact balanced.append_replacementText ((holds_inner_iff replacement).mp each.2)

/-- A written body may stand inside an expansion. -/
theorem balanced_writeBody
    {name : Name} {operation : Operation Text}
    (isName : IsName name)
    (each : operation.EachWord Place.Holds) :
    Balanced (writeBody name operation) := by
  by_cases isLength : operation = .length
  · subst isLength
    have sharp : IsOrdinary '#' := by decide
    apply balanced_of_isOrdinary
    exact List.forall_mem_cons.mpr ⟨sharp, fun c => isName.isOrdinary⟩
  · rw [writeBody_eq_append isLength]
    apply Balanced.append_ordinary fun c => isName.isOrdinary
    exact balanced_writeOperation each

end ParameterExpansion.Template
