import ParameterExpansion.Proofs.Template.Lexing
import ParameterExpansion.Template.Separator

/-!
# Separation and lexing agree

The search for a separator passes quoted characters, dollar pairs and inner expansions, so it finds
the first place at which the separator is a lexeme of its own.  The lexemes in front of that place
are those of the head, and the lexemes behind it are those of the tail.
-/

namespace ParameterExpansion.Template

theorem cutAtSeparator?_cons
    {separator c : Char} {rest : Text}
    (marksNot : ¬ IsMark c rest)
    (quotesNot : ¬ IsQuote true c rest)
    (other : c ≠ separator)
    (passed : Text) :
    cutAtSeparator? separator passed (c :: rest) =
      cutAtSeparator? separator (c :: passed) rest := by
  rw [cutAtSeparator?.eq_def]
  split
  · rename_i same
    simp at same
  · rename_i same
    rcases List.cons.inj same with ⟨rfl, rfl⟩
    rw [cutAtSeparator?]
  · rename_i next tail same
    rcases List.cons.inj same with ⟨rfl, rfl⟩
    exact (quotesNot ⟨rfl, rfl, by simp⟩).elim
  · rename_i tail same
    rcases List.cons.inj same with ⟨rfl, rfl⟩
    exact (marksNot ⟨rfl, '$', tail, rfl, Or.inl rfl⟩).elim
  · rename_i tail same
    rcases List.cons.inj same with ⟨rfl, rfl⟩
    exact (marksNot ⟨rfl, '{', tail, rfl, Or.inr rfl⟩).elim
  · rename_i first tail _ _ _ _ same
    rcases List.cons.inj same with ⟨rfl, rfl⟩
    rw [if_neg other]

theorem cutAtSeparator?_self
    {separator : Char}
    (ordinary : IsOrdinary separator)
    (passed rest : Text) :
    cutAtSeparator? separator passed (separator :: rest) = some (passed.reverse, rest) := by
  rw [cutAtSeparator?]
  · simp
  · intro isQuote
    exact (ordinary.1 isQuote).elim
  · intro next tail isQuote
    exact (ordinary.1 isQuote).elim
  · intro tail isDollar
    exact (ordinary.2.1 isDollar).elim
  · intro tail isDollar
    exact (ordinary.2.1 isDollar).elim

theorem cutAtSeparator?_expansion
    {body : Text}
    (balanced : Balanced body)
    (separator : Char)
    (passed rest : Text) :
    cutAtSeparator? separator passed ('$' :: '{' :: body ++ '}' :: rest) =
      cutAtSeparator? separator ('}' :: body.reverse ++ '{' :: '$' :: passed) rest := by
  have closed : closeBody? (body ++ '}' :: rest) = some (body, rest) :=
    closeBody?_eq_some_iff.mpr ⟨balanced, rfl⟩
  rw [List.cons_append, List.cons_append, cutAtSeparator?]
  split
  · rename_i unclosed
    rw [closed] at unclosed
    simp at unclosed
  · rename_i found after isClosed
    rw [closed] at isClosed
    obtain ⟨rfl, rfl⟩ : body = found ∧ rest = after := by
      simpa using isClosed
    rfl

/-- Text is divided nowhere if the separator is none of its lexemes. -/
theorem Lexes.cutAtSeparator?_eq_none
    {separator : Char} {text : Text} {lexemes : List Lexeme}
    (lexes : Lexes true text lexemes)
    (absent : .plain separator ∉ lexemes)
    (passed : Text) :
    cutAtSeparator? separator passed text = none := by
  induction lexes generalizing passed with
  | nil => simp [cutAtSeparator?]
  | pair lexes ih =>
      rw [cutAtSeparator?]
      exact ih (fun member => absent (List.mem_cons_of_mem _ member)) _
  | expansion balanced lexes ih =>
      rw [cutAtSeparator?_expansion balanced]
      exact ih (fun member => absent (List.mem_cons_of_mem _ member)) _
  | escaped quotes lexes ih =>
      rw [cutAtSeparator?]
      exact ih (fun member => absent (List.mem_cons_of_mem _ member)) _
  | @plain c rest lexemes marksNot quotesNot lexes ih =>
      have other : c ≠ separator := by
        rintro rfl
        exact absent List.mem_cons_self
      rw [cutAtSeparator?_cons marksNot quotesNot other]
      exact ih (fun member => absent (List.mem_cons_of_mem _ member)) _

/-- Text is divided where the separator is a lexeme for the first time. -/
theorem Lexes.cutAtSeparator?_eq_some
    {separator : Char} {text : Text} {before after : List Lexeme}
    (ordinary : IsOrdinary separator)
    (lexes : Lexes true text (before ++ .plain separator :: after))
    (absent : .plain separator ∉ before)
    (passed : Text) :
    cutAtSeparator? separator passed text =
      some (passed.reverse ++ before.flatMap Lexeme.spelling,
        after.flatMap Lexeme.spelling) := by
  generalize whole : before ++ .plain separator :: after = lexemes at lexes
  induction lexes generalizing before passed with
  | nil => simp at whole
  | pair lexes ih =>
      cases before with
      | nil => simp at whole
      | cons first before =>
          rcases List.cons.inj whole with ⟨rfl, rfl⟩
          rw [cutAtSeparator?, ih (fun member => absent (List.mem_cons_of_mem _ member)) _ rfl]
          simp [Lexeme.spelling]
  | expansion balanced lexes ih =>
      cases before with
      | nil => simp at whole
      | cons first before =>
          rcases List.cons.inj whole with ⟨rfl, rfl⟩
          rw [cutAtSeparator?_expansion balanced,
            ih (fun member => absent (List.mem_cons_of_mem _ member)) _ rfl]
          simp [Lexeme.spelling]
  | escaped quotes lexes ih =>
      cases before with
      | nil => simp at whole
      | cons first before =>
          rcases List.cons.inj whole with ⟨rfl, rfl⟩
          rw [cutAtSeparator?, ih (fun member => absent (List.mem_cons_of_mem _ member)) _ rfl]
          simp [Lexeme.spelling]
  | @plain c rest lexemes marksNot quotesNot lexes ih =>
      cases before with
      | nil =>
          rcases List.cons.inj whole with ⟨same, rfl⟩
          have same : separator = c := by
            simpa using same
          subst same
          rw [cutAtSeparator?_self ordinary, ← lexes.spelling]
          simp
      | cons first before =>
          rcases List.cons.inj whole with ⟨rfl, rfl⟩
          have other : c ≠ separator := by
            rintro rfl
            exact absent List.mem_cons_self
          rw [cutAtSeparator?_cons marksNot quotesNot other,
            ih (fun member => absent (List.mem_cons_of_mem _ member)) _ rfl]
          simp [Lexeme.spelling]

/-- The lexemes on the two sides of an ordinary character are those of the text on each side. -/
theorem Lexes.split
    {escapes : Bool} {c : Char} {text : Text} {before after : List Lexeme}
    (lexes : Lexes escapes text (before ++ .plain c :: after)) :
    ∃ head tail,
      text = head ++ c :: tail ∧ Lexes escapes head before ∧ Lexes escapes tail after := by
  generalize whole : before ++ .plain c :: after = lexemes at lexes
  induction lexes generalizing before with
  | nil => simp at whole
  | pair lexes ih =>
      cases before with
      | nil => simp at whole
      | cons first before =>
          rcases List.cons.inj whole with ⟨rfl, rfl⟩
          rcases ih rfl with ⟨head, tail, rfl, headLexes, tailLexes⟩
          exact ⟨'$' :: '$' :: head, tail, rfl, Lexes.pair headLexes, tailLexes⟩
  | @expansion body rest lexemes balanced lexes ih =>
      cases before with
      | nil => simp at whole
      | cons first before =>
          rcases List.cons.inj whole with ⟨rfl, rfl⟩
          rcases ih rfl with ⟨head, tail, rfl, headLexes, tailLexes⟩
          refine ⟨'$' :: '{' :: body ++ '}' :: head, tail, by simp, ?_, tailLexes⟩
          exact Lexes.expansion balanced headLexes
  | @escaped quoted rest lexemes quotes lexes ih =>
      cases before with
      | nil => simp at whole
      | cons first before =>
          rcases List.cons.inj whole with ⟨rfl, rfl⟩
          rcases ih rfl with ⟨head, tail, rfl, headLexes, tailLexes⟩
          exact ⟨'\\' :: quoted :: head, tail, rfl, Lexes.escaped quotes headLexes, tailLexes⟩
  | @plain other rest lexemes marksNot quotesNot lexes ih =>
      cases before with
      | nil =>
          rcases List.cons.inj whole with ⟨same, rfl⟩
          have same : c = other := by
            simpa using same
          subst same
          exact ⟨[], rest, rfl, Lexes.nil, lexes⟩
      | cons first before =>
          rcases List.cons.inj whole with ⟨rfl, rfl⟩
          rcases ih rfl with ⟨head, tail, rfl, headLexes, tailLexes⟩
          refine ⟨other :: head, tail, rfl, Lexes.plain ?_ ?_ headLexes, tailLexes⟩
          · intro mark
            exact marksNot (mark.of_prefix (List.prefix_append _ _))
          · rintro ⟨quotes, isQuote, _⟩
            exact quotesNot ⟨quotes, isQuote, by simp⟩

/-- A character without a role between two texts is a lexeme between theirs. -/
theorem Lexes.join
    {escapes : Bool} {c : Char} {head tail : Text} {before after : List Lexeme}
    (headLexes : Lexes escapes head before)
    (tailLexes : Lexes escapes tail after)
    (ordinary : IsOrdinary c)
    (opensNot : c ≠ '{')
    (clean : .plain '\\' ∉ before) :
    Lexes escapes (head ++ c :: tail) (before ++ .plain c :: after) := by
  have behind : Lexes escapes (c :: tail) (.plain c :: after) := by
    apply Lexes.plain (ordinary.not_isMark tail) _ tailLexes
    intro quote
    exact ordinary.1 quote.2.1
  apply headLexes.append behind
  intro last isLast
  refine ⟨?_, ?_⟩
  · rintro ⟨_, next, others, joined, isNext⟩
    rcases List.cons.inj joined with ⟨rfl, _⟩
    rcases isNext with isNext | isNext
    · exact ordinary.2.1 isNext
    · exact opensNot isNext
  · rintro ⟨_, rfl, _⟩
    exact clean (List.mem_of_getLast? isLast)

/-- Two balanced texts are balanced with a character without a role between them. -/
theorem Balanced.join
    {c : Char} {head tail : Text}
    (headBalanced : Balanced head)
    (tailBalanced : Balanced tail)
    (ordinary : IsOrdinary c)
    (opensNot : c ≠ '{') :
    Balanced (head ++ c :: tail) := by
  rcases balanced_iff_lexes.mp headBalanced with ⟨before, headLexes, headClean⟩
  rcases balanced_iff_lexes.mp tailBalanced with ⟨after, tailLexes, tailClean⟩
  have bare : .plain '\\' ∉ before := fun member => (headClean _ member).1 rfl
  refine balanced_iff_lexes.mpr ⟨_, headLexes.join tailLexes ordinary opensNot bare, ?_⟩
  intro other member
  rcases List.mem_append.mp member with member | member
  · exact headClean other member
  · rcases List.mem_cons.mp member with same | member
    · have same : other = c := by simpa using same
      subst same
      exact ⟨ordinary.1, ordinary.2.2⟩
    · exact tailClean other member

end ParameterExpansion.Template
