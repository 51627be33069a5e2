import Mathlib.Algebra.Group.Nat.Even
import Mathlib.Data.List.DropRight
import ParameterExpansion.Proofs.Template.NormalForm

/-!
# Templates one behind the other

The lexemes of two texts, one behind the other, are those of the one and of the other, unless a
dollar that stands alone at the end of the first meets a dollar or an opening brace.  A dollar stands
alone there exactly when the number of dollars at the end is odd.  Joining lexemes into contents then
joins a literal run at the end of the first with one at the start of the second, and nothing else
changes.
-/

namespace ParameterExpansion.Template

/-! ## Dollars at the end of a text -/

/-- The number of dollars at the end of a text. -/
def closingDollars (text : Text) : Nat :=
  (text.rtakeWhile (· == '$')).length

theorem closingDollars_of_forall
    {text : Text}
    (dollars : ∀ c ∈ text, c = '$') :
    closingDollars text = text.length := by
  have taken : text.rtakeWhile (· == '$') = text := by
    rw [List.rtakeWhile_eq_self_iff]
    simpa using dollars
  rw [closingDollars, taken]

/-- Only the dollars behind the last other character count. -/
theorem closingDollars_append_cons
    {c : Char}
    (other : c ≠ '$')
    (front rest : Text) :
    closingDollars (front ++ c :: rest) = closingDollars rest := by
  induction rest using List.reverseRecOn with
  | nil => simp [closingDollars, other]
  | append_singleton rest last ih =>
      have shape : front ++ c :: (rest ++ [last]) = (front ++ c :: rest) ++ [last] := by simp
      by_cases isDollar : last = '$'
      · have counts (text : Text) : closingDollars (text ++ [last]) = closingDollars text + 1 := by
          simp [closingDollars, isDollar]
        rw [shape, counts, counts, ih]
      · have starts (text : Text) : closingDollars (text ++ [last]) = 0 := by
          simp [closingDollars, isDollar]
        rw [shape, starts, starts]

theorem closingDollars_append
    {rest : Text}
    (other : ∃ c ∈ rest, c ≠ '$')
    (front : Text) :
    closingDollars (front ++ rest) = closingDollars rest := by
  rcases other with ⟨c, member, other⟩
  rcases List.append_of_mem member with ⟨before, after, rfl⟩
  rw [← List.append_assoc, closingDollars_append_cons other, closingDollars_append_cons other]

/-- A pair of dollars in front changes nothing about whether their number is even. -/
theorem even_closingDollars_pair_iff (rest : Text) :
    Even (closingDollars ('$' :: '$' :: rest)) ↔ Even (closingDollars rest) := by
  by_cases other : ∃ c ∈ rest, c ≠ '$'
  · rw [← closingDollars_append other ['$', '$']]
    rfl
  · have dollars : ∀ c ∈ rest, c = '$' := by simpa using other
    have longer : ∀ c ∈ '$' :: '$' :: rest, c = '$' := by simpa using dollars
    rw [closingDollars_of_forall dollars, closingDollars_of_forall longer]
    simp [Nat.even_add_one]

/-- A dollar that stands alone at the end of a text ends an odd number of them. -/
theorem Lexes.not_even_of_getLast?
    {text : Text} {lexemes : List Lexeme}
    (lexes : Lexes false text lexemes)
    (last : lexemes.getLast? = some (.plain '$')) :
    ¬ Even (closingDollars text) := by
  induction lexes with
  | nil => simp at last
  | @pair rest lexemes lexes ih =>
      rw [even_closingDollars_pair_iff]
      apply ih
      cases lexemes with
      | nil => simp at last
      | cons lexeme lexemes => simpa [List.getLast?_cons_cons] using last
  | @expansion body rest lexemes balanced lexes ih =>
      rw [closingDollars_append_cons (by decide)]
      apply ih
      cases lexemes with
      | nil => simp at last
      | cons lexeme lexemes => simpa [List.getLast?_cons_cons] using last
  | escaped quotes lexes ih => cases quotes
  | @plain c rest lexemes marksNot quotesNot lexes ih =>
      cases lexemes with
      | nil =>
          obtain rfl : c = '$' := by simpa using last
          cases lexes
          decide
      | cons lexeme lexemes =>
          have odd := ih (by simpa [List.getLast?_cons_cons] using last)
          by_cases isDollar : c = '$'
          · subst isDollar
            -- The dollar is no mark, so the next character is no dollar and ends the count.
            cases rest with
            | nil => cases lexes
            | cons next rest =>
                have other : next ≠ '$' :=
                  fun same => marksNot ⟨rfl, next, rest, rfl, Or.inl same⟩
                have ends : ∃ c ∈ next :: rest, c ≠ '$' := ⟨next, List.mem_cons_self, other⟩
                rwa [← List.singleton_append, closingDollars_append ends]
          · rwa [← List.nil_append (c :: rest), closingDollars_append_cons isDollar]

/--
Two texts can stand one behind the other: the first ends in an even number of dollars, or the second
starts with neither a dollar nor an opening brace.
-/
def CanMeet (front rest : Text) : Prop :=
  Even (closingDollars front) ∨ ∀ c ∈ rest.head?, c ≠ '$' ∧ c ≠ '{'

theorem CanMeet.leavesLast
    {front rest : Text} {lexemes : List Lexeme}
    (canMeet : CanMeet front rest)
    (lexes : Lexes false front lexemes) :
    LeavesLast false lexemes rest := by
  intro c last
  refine ⟨?_, fun quote => Bool.false_ne_true quote.1⟩
  rintro ⟨rfl, next, tail, rfl, isNext⟩
  rcases canMeet with even | apart
  · exact lexes.not_even_of_getLast? last even
  · rcases isNext with isNext | isNext
    · exact (apart next rfl).1 isNext
    · exact (apart next rfl).2 isNext

/-! ## Contents one behind the other -/

/-- Contents one behind the other, with a literal run joined to one that follows it. -/
def joinContents : List Content → List Content → List Content
  | [], others => others
  | [.literal text], .literal more :: others => .literal (text ++ more) :: others
  | content :: contents, others => content :: joinContents contents others

theorem joinChar_joinContents
    (c : Char)
    (contents others : List Content) :
    joinChar c (joinContents contents others) = joinContents (joinChar c contents) others := by
  rcases contents with _ | ⟨content, contents⟩
  · rcases others with _ | ⟨other, others⟩
    · rfl
    · cases other <;> rfl
  · cases content with
    | escaped quoted => rfl
    | expansion body => rfl
    | literal text =>
        rcases contents with _ | ⟨next, contents⟩
        · rcases others with _ | ⟨other, others⟩
          · rfl
          · cases other <;> rfl
        · rfl

theorem joinLexemes_append (before after : List Lexeme) :
    joinLexemes (before ++ after) = joinContents (joinLexemes before) (joinLexemes after) := by
  induction before with
  | nil => rfl
  | cons lexeme before ih =>
      cases lexeme with
      | plain c => rw [List.cons_append, joinLexemes, ih, joinChar_joinContents, joinLexemes]
      | dollarPair => rw [List.cons_append, joinLexemes, ih, joinChar_joinContents, joinLexemes]
      | escaped c =>
          rw [List.cons_append, joinLexemes, ih]
          rfl
      | expansion body =>
          rw [List.cons_append, joinLexemes, ih]
          rfl

/-! ## Words one behind the other -/

/-- Words one behind the other, with literal text joined to literal text that follows it. -/
def joinWords (front rest : Word) : Word :=
  match front.getLast?, rest with
  | some (.literal text), .literal more :: others =>
      front.dropLast ++ .literal (text ++ more) :: others
  | _, _ => front ++ rest

theorem joinWords_nil (rest : Word) :
    joinWords [] rest = rest := by
  simp [joinWords]

theorem joinWords_literal
    (text more : Text)
    (others : Word) :
    joinWords [.literal text] (.literal more :: others) = .literal (text ++ more) :: others := by
  simp [joinWords]

/-- A part that has another behind it, or meets no literal text as literal text, stays as it is. -/
theorem joinWords_cons
    {part : Part} {front rest : Word}
    (apart : front ≠ [] ∨ part.isLiteral = false ∨ ∀ next ∈ rest.head?, next.isLiteral = false) :
    joinWords (part :: front) rest = part :: joinWords front rest := by
  unfold joinWords
  rcases front with _ | ⟨second, front⟩
  · rcases rest with _ | ⟨next, rest⟩
    · cases part <;> rfl
    · cases part with
      | escaped text => rfl
      | expansion name operation raw => rfl
      | literal text =>
          cases next with
          | literal more => simp [Part.isLiteral] at apart
          | escaped more => rfl
          | expansion name operation raw => rfl
  · rw [List.getLast?_cons_cons, List.dropLast_cons_cons]
    split
    · rfl
    · rfl

theorem isLiteral_eq_false_of_parseBody
    {limits : Limits} {depth : Int} {body : Text} {part : Part}
    (parsed : parseBody limits depth body = .ok part) :
    part.isLiteral = false := by
  rcases parseBody_eq_ok_iff.mp parsed with ⟨name, source, operation, _, _, rfl⟩
  rfl

/-- Words that are parsed from contents are joined as the contents are. -/
theorem parsesTo_joinWords
    {limits : Limits} {depth : Int} {contents others : List Content} {front rest : Word}
    (frontParses : List.Forall₂ (ParsesTo limits depth) contents front)
    (restParses : List.Forall₂ (ParsesTo limits depth) others rest) :
    List.Forall₂ (ParsesTo limits depth) (joinContents contents others) (joinWords front rest) := by
  induction frontParses with
  | nil =>
      rw [joinWords_nil]
      exact restParses
  | @cons content part contents front first behind ih =>
      cases first with
      | escaped c =>
          rw [joinWords_cons (Or.inr (Or.inl rfl))]
          exact List.Forall₂.cons (ParsesTo.escaped c) ih
      | expansion parsed =>
          rw [joinWords_cons (Or.inr (Or.inl (isLiteral_eq_false_of_parseBody parsed)))]
          exact List.Forall₂.cons (ParsesTo.expansion parsed) ih
      | literal text =>
          cases behind with
          | cons second behind =>
              rw [joinWords_cons (Or.inl (by simp))]
              exact List.Forall₂.cons (ParsesTo.literal text) ih
          | nil =>
              -- Only here may two literal runs meet.
              cases restParses with
              | nil => exact List.Forall₂.cons (ParsesTo.literal text) List.Forall₂.nil
              | @cons other next others rest met others =>
                  cases met with
                  | literal more =>
                      rw [joinWords_literal]
                      exact List.Forall₂.cons (ParsesTo.literal (text ++ more)) others
                  | escaped c =>
                      rw [joinWords_cons (Or.inr (Or.inr (by simp [Part.isLiteral])))]
                      exact List.Forall₂.cons (ParsesTo.literal text) ih
                  | expansion parsed =>
                      have apart := isLiteral_eq_false_of_parseBody parsed
                      rw [joinWords_cons (Or.inr (Or.inr (by simpa using apart)))]
                      exact List.Forall₂.cons (ParsesTo.literal text) ih

/-! ## Parsing -/

/-- Texts that can be parsed and can meet are parsed, one behind the other, as their words joined. -/
theorem parseWord_append
    {limits : Limits} {depth : Int} {front rest : Text} {word other : Word}
    (frontParsed : parseWord limits false depth front = .ok word)
    (restParsed : parseWord limits false depth rest = .ok other)
    (canMeet : CanMeet front rest) :
    parseWord limits false depth (front ++ rest) = .ok (joinWords word other) := by
  rcases parseWord_eq_ok_iff.mp frontParsed with ⟨allowed, before, frontLexes, frontParses⟩
  rcases parseWord_eq_ok_iff.mp restParsed with ⟨_, after, restLexes, restParses⟩
  have lexes := frontLexes.append restLexes (canMeet.leavesLast frontLexes)
  refine parseWord_eq_ok_iff.mpr ⟨allowed, before ++ after, lexes, ?_⟩
  rw [joinLexemes_append]
  exact parsesTo_joinWords frontParses restParses

theorem parseText_append
    {limits : Limits} {front rest : Text} {word other : Word}
    (frontParsed : parseText limits front = .ok word)
    (restParsed : parseText limits rest = .ok other)
    (fits : (front ++ rest).length ≤ limits.size)
    (canMeet : CanMeet front rest) :
    parseText limits (front ++ rest) = .ok (joinWords word other) := by
  have frontParsed := (parseText_eq_ok_iff.mp frontParsed).2
  have restParsed := (parseText_eq_ok_iff.mp restParsed).2
  exact parseText_eq_ok_iff.mpr ⟨fits, parseWord_append frontParsed restParsed canMeet⟩

end ParameterExpansion.Template
