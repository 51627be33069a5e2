import ParameterExpansion.Proofs.Glob.QuotedPattern
import ParameterExpansion.Proofs.Glob.WrittenBracket

/-!
# Compiled patterns

Pieces are compiled to the tokens of their texts, and neighbouring stars become one.  That changes
the tokens and not the language: pieces that follow each other stand for the texts of the first ones
followed by texts of the others.  What is left has no neighbouring stars, every bracket expression in
it is one that an active piece writes out, with the classes that it names there, and the characters
of an inactive piece are all there, one token for each.
-/

namespace ParameterExpansion.Glob

/-! ## Patterns one after the other -/

/-- A text of two patterns is a text of the first and then a text of the second. -/
theorem matches_append_iff
    (first second : List Token)
    (text : Text) :
    Matches (first ++ second) text ↔
      ∃ front rest, Matches first front ∧ Matches second rest ∧ text = front ++ rest := by
  induction first generalizing text with
  | nil => simp
  | cons token first ih =>
      rw [List.cons_append, matches_cons_iff]
      constructor
      · rintro ⟨piece, others, takes, whole, rfl⟩
        rcases (ih others).mp whole with ⟨front, rest, matched, rests, rfl⟩
        refine ⟨piece ++ front, rest, ?_, rests, (List.append_assoc _ _ _).symm⟩
        exact (matches_cons_iff _ _ _).mpr ⟨piece, front, takes, matched, rfl⟩
      · rintro ⟨_, rest, whole, rests, rfl⟩
        rcases (matches_cons_iff _ _ _).mp whole with ⟨piece, front, takes, matched, rfl⟩
        refine ⟨piece, front ++ rest, takes, ?_, (List.append_assoc _ _ _).symm⟩
        exact (ih _).mpr ⟨front, rest, matched, rests, rfl⟩

/-! ## Neighbouring stars -/

theorem prepend_of_ne_star
    {token : Token}
    (single : token ≠ .star)
    (pattern : List Token) :
    prepend token pattern = token :: pattern := by
  unfold prepend
  split
  · exact (single rfl).elim
  · rfl

theorem prepend_star_of_head?_ne
    {pattern : List Token}
    (apart : pattern.head? ≠ some .star) :
    prepend .star pattern = .star :: pattern := by
  unfold prepend
  split
  · exact (apart rfl).elim
  · rfl

/-- Two stars stand for what one star stands for. -/
theorem matches_star_star_iff
    (pattern : List Token)
    (text : Text) :
    Matches (.star :: .star :: pattern) text ↔ Matches (.star :: pattern) text := by
  constructor
  · intro whole
    rcases (matches_cons_iff _ _ _).mp whole with ⟨first, others, _, behind, rfl⟩
    rcases (matches_cons_iff _ _ _).mp behind with ⟨second, rest, _, rests, rfl⟩
    rw [matches_cons_iff]
    exact ⟨first ++ second, rest, Token.takes_star _, rests, List.append_assoc _ _ _⟩
  · exact matches_star_of_matches

theorem matches_prepend_iff
    (token : Token)
    (pattern : List Token)
    (text : Text) :
    Matches (prepend token pattern) text ↔ Matches (token :: pattern) text := by
  unfold prepend
  split
  · exact (matches_star_star_iff _ _).symm
  · exact Iff.rfl

/-- Making one star of neighbouring stars does not change the language. -/
theorem matches_foldr_prepend_iff
    (tokens : List Token)
    (text : Text) :
    Matches (tokens.foldr prepend []) text ↔ Matches tokens text := by
  induction tokens generalizing text with
  | nil => exact Iff.rfl
  | cons token tokens ih =>
      rw [List.foldr_cons, matches_prepend_iff, matches_cons_iff, matches_cons_iff]
      simp only [ih]

theorem isChain_prepend
    {pattern : List Token}
    (apart : pattern.IsChain fun token next => token = .star → next ≠ .star)
    (token : Token) :
    (prepend token pattern).IsChain fun token next => token = .star → next ≠ .star := by
  unfold prepend
  split
  · exact apart
  · rename_i distinct
    cases pattern with
    | nil => exact List.isChain_singleton token
    | cons next rest =>
        refine List.isChain_cons_cons.mpr ⟨?_, apart⟩
        rintro rfl rfl
        exact distinct rest rfl rfl

/-- No two stars are neighbours when neighbouring stars have become one. -/
theorem isChain_foldr_prepend (tokens : List Token) :
    (tokens.foldr prepend []).IsChain fun token next => token = .star → next ≠ .star := by
  induction tokens with
  | nil => exact List.isChain_nil
  | cons token tokens ih => exact isChain_prepend ih token

theorem mem_of_mem_foldr_prepend
    {token : Token} {tokens : List Token}
    (member : token ∈ tokens.foldr prepend []) :
    token ∈ tokens := by
  induction tokens with
  | nil => exact member
  | cons first tokens ih =>
      rw [List.foldr_cons] at member
      unfold prepend at member
      split at member
      · exact List.mem_cons_of_mem _ (ih member)
      · rcases List.mem_cons.mp member with rfl | member
        · exact List.mem_cons_self
        · exact List.mem_cons_of_mem _ (ih member)

/-- Stars do not meet at a seam behind which there is something else than a star. -/
theorem foldr_prepend_append
    {rest : List Token}
    (apart : rest.head? ≠ some .star)
    (tokens : List Token) :
    tokens.foldr prepend rest = tokens.foldr prepend [] ++ rest := by
  induction tokens with
  | nil => rfl
  | cons token tokens ih =>
      rw [List.foldr_cons, List.foldr_cons, ih]
      by_cases single : token = .star
      · rw [single]
        cases folded : tokens.foldr prepend [] with
        | nil => exact prepend_star_of_head?_ne apart
        | cons first others => cases first <;> rfl
      · rw [prepend_of_ne_star single, prepend_of_ne_star single, List.cons_append]

/-- A token that is no star keeps what is in front of it apart from what is behind it. -/
theorem foldr_prepend_append_cons
    {token : Token}
    (single : token ≠ .star)
    (front rest : List Token) :
    (front ++ token :: rest).foldr prepend [] =
      front.foldr prepend [] ++ token :: rest.foldr prepend [] := by
  rw [List.foldr_append, List.foldr_cons, prepend_of_ne_star single]
  exact foldr_prepend_append (by simpa using single) front

/-! ## What tokens are written as -/

theorem CharacterClass.mem_all (kind : CharacterClass) :
    kind ∈ all := by
  cases kind <;> decide

theorem CharacterClass.eq_of_read?
    {text rest : Text} {kind : CharacterClass}
    (found : read? text = some (kind, rest)) :
    text = kind.closing ++ rest := by
  simp only [read?] at found
  split at found
  · cases found
  · rename_i first isFirst
    have fits := List.find?_some isFirst
    rcases List.isPrefixOf_iff_prefix.mp fits with ⟨tail, rfl⟩
    rw [List.drop_left] at found
    cases found
    rfl

namespace Bracket

/-- An entry stands in front of what follows it as it is written. -/
theorem eq_of_readItem?
    {text rest : Text} {item : BracketItem}
    (found : readItem? text = some (item, rest)) :
    text = item.written ++ rest := by
  cases text with
  | nil => simp [readItem?] at found
  | cons c tail =>
      simp only [readItem?] at found
      split at found
      · rename_i kind after named
        cases found
        split at named
        · rename_i opens
          split at named
          · rw [opens, CharacterClass.eq_of_read? named]
            rfl
          · cases named
        · cases named
      · split at found
        · split at found
          · cases found
            rfl
          · cases found
            rfl
        · cases found
          rfl

/-- The entries that are read stand in front of the closing bracket, and there is one at least. -/
theorem eq_of_readItems?
    {done items : List BracketItem} {text rest : Text}
    (found : readItems? done text = some (items, rest)) :
    items ≠ [] ∧ ∃ others,
      items = done.reverse ++ others ∧
        text = others.flatMap BracketItem.written ++ ']' :: rest := by
  fun_induction readItems? done text with
  | case1 => cases found
  | case2 done c tail closes =>
      cases found
      refine ⟨by simpa using closes.2, [], by simp, ?_⟩
      rw [closes.1]
      rfl
  | case3 => cases found
  | case4 done c tail _ item after isRead shorter ih =>
      rcases ih found with ⟨nonempty, others, rfl, rfl⟩
      refine ⟨nonempty, item :: others, by simp, ?_⟩
      rw [eq_of_readItem? isRead, List.flatMap_cons, List.append_assoc]

/-- A bracket expression is a mark, or none, and the entries that are read behind it. -/
theorem exists_readItems?_of_read?
    {text rest : Text} {set : Bracket}
    (found : read? text = some (set, rest)) :
    ∃ negation inner items,
      text = Negation.written negation ++ inner ∧
        (negation = .absent → inner.head? ≠ some '!' ∧ inner.head? ≠ some '^') ∧
        readItems? [] inner = some (items, rest) ∧
        set = ofItems negation.isPresent items := by
  unfold read? at found
  split at found
  all_goals
    rcases Option.map_eq_some_iff.mp found with ⟨⟨items, after⟩, isRead, same⟩
    cases same
  case h_1 inner => exact ⟨.exclamation, inner, items, rfl, nofun, isRead, rfl⟩
  case h_2 inner => exact ⟨.caret, inner, items, rfl, nofun, isRead, rfl⟩
  case h_3 notExclamation notCaret =>
    refine ⟨.absent, text, items, rfl, fun _ => ?_, isRead, rfl⟩
    cases text with
    | nil => simp
    | cons c tail =>
        simp only [List.head?_cons, ne_eq, Option.some.injEq]
        constructor
        · rintro rfl
          exact notExclamation tail rfl
        · rintro rfl
          exact notCaret tail rfl

/-- The bracket expression is that of entries which the text writes out. -/
def IsWrittenIn (set : Bracket) (text : Text) : Prop :=
  ∃ negation items,
    items ≠ [] ∧
      set = ofItems negation.isPresent items ∧
      writeBracket negation items <:+: text

/-- A bracket expression that is read is written in front of what follows it. -/
theorem exists_isWrittenIn_of_read?
    {text rest : Text} {set : Bracket}
    (found : read? text = some (set, rest)) :
    ∃ own, set.IsWrittenIn own ∧ '[' :: text = own ++ rest := by
  rcases exists_readItems?_of_read? found with ⟨negation, inner, items, rfl, _, isRead, rfl⟩
  rcases eq_of_readItems? isRead with ⟨nonempty, others, same, rfl⟩
  obtain rfl : items = others := same
  have isWritten : (ofItems negation.isPresent items).IsWrittenIn (writeBracket negation items) :=
    ⟨negation, items, nonempty, rfl, List.infix_refl _⟩
  exact ⟨_, isWritten, by simp [writeBracket]⟩

/-- The classes of a bracket expression are named in the text that writes it out. -/
theorem IsWrittenIn.isInfix_of_mem_classes
    {set : Bracket} {text : Text} {kind : CharacterClass}
    (isWritten : set.IsWrittenIn text)
    (member : kind ∈ set.classes) :
    '[' :: ':' :: kind.closing <:+: text := by
  rcases isWritten with ⟨negation, items, _, rfl, stands⟩
  rcases List.mem_filterMap.mp member with ⟨item, isItem, isClass⟩
  obtain rfl : item = .charClass kind := by
    cases item <;> simp_all [classOf?]
  have inItems : '[' :: ':' :: kind.closing <:+: items.flatMap BracketItem.written :=
    List.infix_of_mem_flatten (List.mem_map_of_mem isItem)
  exact (inItems.trans ⟨'[' :: negation.written, [']'], by simp [writeBracket]⟩).trans stands

end Bracket

/-- The token stands for something that the text holds as it is written. -/
inductive Token.IsWrittenIn (text : Text) : Token → Prop where
  | literal {c : Char} (member : c ∈ text) : IsWrittenIn text (.literal c)
  | any (member : '?' ∈ text) : IsWrittenIn text .any
  | star (member : '*' ∈ text) : IsWrittenIn text .star
  | bracket {set : Bracket} (isWritten : set.IsWrittenIn text) : IsWrittenIn text (.bracket set)

theorem Token.IsWrittenIn.of_isInfix
    {token : Token} {inner text : Text}
    (isWritten : token.IsWrittenIn inner)
    (stands : inner <:+: text) :
    token.IsWrittenIn text := by
  cases isWritten with
  | literal member => exact .literal (stands.subset member)
  | any member => exact .any (stands.subset member)
  | star member => exact .star (stands.subset member)
  | bracket isWritten =>
      rcases isWritten with ⟨negation, items, nonempty, same, inside⟩
      exact .bracket ⟨negation, items, nonempty, same, inside.trans stands⟩

theorem Token.IsWrittenIn.of_mem_cons_or
    {token first : Token} {done : List Token} {inner text : Text}
    (found : token ∈ first :: done ∨ token.IsWrittenIn inner)
    (own : first.IsWrittenIn text)
    (stands : inner <:+: text) :
    token ∈ done ∨ token.IsWrittenIn text := by
  rcases found with before | isWritten
  · rcases List.mem_cons.mp before with rfl | before
    · exact Or.inr own
    · exact Or.inl before
  · exact Or.inr (isWritten.of_isInfix stands)

/-- Every token that is read stands for something in the text. -/
theorem isWrittenIn_of_mem_readTokens
    {done : List Token} {text : Text} {token : Token}
    (member : token ∈ readTokens done text) :
    token ∈ done ∨ token.IsWrittenIn text := by
  have behind (c : Char) (rest : Text) : rest <:+: c :: rest := (List.suffix_cons c rest).isInfix
  fun_induction readTokens done text with
  | case1 done => exact Or.inl (List.mem_reverse.mp member)
  | case2 done rest ih =>
      exact Token.IsWrittenIn.of_mem_cons_or (ih member) (.star List.mem_cons_self) (behind _ _)
  | case3 done rest ih =>
      exact Token.IsWrittenIn.of_mem_cons_or (ih member) (.any List.mem_cons_self) (behind _ _)
  | case4 done rest set after found shorter ih =>
      rcases Bracket.exists_isWrittenIn_of_read? found with ⟨own, isWritten, whole⟩
      rw [whole]
      apply Token.IsWrittenIn.of_mem_cons_or (ih member)
      · exact (Token.IsWrittenIn.bracket isWritten).of_isInfix (List.prefix_append own after).isInfix
      · exact (List.suffix_append own after).isInfix
  | case5 done rest unread ih =>
      exact Token.IsWrittenIn.of_mem_cons_or (ih member) (.literal List.mem_cons_self) (behind _ _)
  | case6 done c rest _ _ _ ih =>
      exact Token.IsWrittenIn.of_mem_cons_or (ih member) (.literal List.mem_cons_self) (behind _ _)

theorem Piece.isWrittenIn_of_mem_tokens
    {piece : Piece} {token : Token}
    (member : token ∈ piece.tokens) :
    token.IsWrittenIn piece.text ∧ (piece.active = false → ∃ c, token = .literal c) := by
  unfold Piece.tokens at member
  split at member
  · rename_i active
    refine ⟨?_, by simp [active]⟩
    rcases isWrittenIn_of_mem_readTokens member with before | isWritten
    · cases before
    · exact isWritten
  · rcases List.mem_map.mp member with ⟨c, inText, rfl⟩
    exact ⟨.literal inText, fun _ => ⟨c, rfl⟩⟩

/-- Every token of a pattern is written in one of the pieces, in an active one if it is no literal. -/
theorem exists_isWrittenIn_of_mem_compile
    {pieces : List Piece} {token : Token}
    (member : token ∈ compile pieces) :
    ∃ piece ∈ pieces,
      token.IsWrittenIn piece.text ∧ (piece.active = false → ∃ c, token = .literal c) := by
  rcases List.mem_flatMap.mp (mem_of_mem_foldr_prepend member) with ⟨piece, isPiece, isToken⟩
  exact ⟨piece, isPiece, piece.isWrittenIn_of_mem_tokens isToken⟩

/-! ## Compiled patterns -/

/--
What is known of the tokens that pieces are compiled to.  A literal token stands for one character,
which one of the pieces holds.  A bracket expression is written out in an active piece, and its
classes are known ones that are named there.
-/
structure IsCompiledFrom (pieces : List Piece) (pattern : List Token) : Prop where
  starsApart : pattern.IsChain fun token next => token = .star → next ≠ .star
  literals : ∀ c, .literal c ∈ pattern →
    (∀ text, (Token.literal c).Takes text ↔ text = [c]) ∧ ∃ piece ∈ pieces, c ∈ piece.text
  brackets : ∀ set, .bracket set ∈ pattern →
    ∃ piece ∈ pieces, piece.active = true ∧ set.IsWrittenIn piece.text ∧
      ∀ kind ∈ set.classes,
        kind ∈ CharacterClass.all ∧ '[' :: ':' :: kind.closing <:+: piece.text

theorem isCompiledFrom_compile (pieces : List Piece) :
    IsCompiledFrom pieces (compile pieces) where
  starsApart := isChain_foldr_prepend _
  literals c member := by
    constructor
    · intro text
      simp [Token.takes_iff_of_ne_star, Token.contains]
    · rcases exists_isWrittenIn_of_mem_compile member with ⟨piece, isPiece, isWritten, _⟩
      cases isWritten with
      | literal inText => exact ⟨piece, isPiece, inText⟩
  brackets set member := by
    rcases exists_isWrittenIn_of_mem_compile member with ⟨piece, isPiece, isWritten, inactive⟩
    have active : piece.active = true := by
      by_contra isInactive
      rcases inactive (Bool.eq_false_iff.mpr isInactive) with ⟨c, other⟩
      cases other
    cases isWritten with
    | bracket isWritten =>
        refine ⟨piece, isPiece, active, isWritten, ?_⟩
        intro kind isNamed
        exact ⟨kind.mem_all, isWritten.isInfix_of_mem_classes isNamed⟩

/-- The characters of an inactive piece stand between the tokens of the others, one token for each. -/
theorem compile_append_inactive_cons
    (earlier later : List Piece)
    (quoted : Text) :
    compile (earlier ++ ⟨quoted, false⟩ :: later) =
      if quoted = [] then compile (earlier ++ later)
      else compile earlier ++ (quoted.map .literal ++ compile later) := by
  have tokens : Piece.tokens ⟨quoted, false⟩ = quoted.map .literal := rfl
  cases quoted with
  | nil => simp [compile, tokens]
  | cons c others =>
      rw [if_neg (by simp), compile, List.flatMap_append, List.flatMap_cons, tokens, List.map_cons,
        List.cons_append, foldr_prepend_append_cons (by simp), List.foldr_append,
        foldr_prepend_map_literal, ← compile, ← compile, List.cons_append]

/--
Pieces followed by others stand for the texts that are made of a text of the first pattern and a text
of the second.  The tokens of pieces have no neighbouring stars and come from what the pieces write
out, and an inactive piece gives one literal token for each of its characters, between the tokens of
the pieces around it.
-/
theorem matches_compile_append_and_isCompiledFrom
    (earlier later : List Piece)
    (quoted : Text) :
    (∀ text,
      Matches (compile (earlier ++ later)) text ↔
        ∃ front rest,
          Matches (compile earlier) front ∧ Matches (compile later) rest ∧
            text = front ++ rest) ∧
    IsCompiledFrom earlier (compile earlier) ∧
    compile (earlier ++ ⟨quoted, false⟩ :: later) =
      if quoted = [] then compile (earlier ++ later)
      else compile earlier ++ (quoted.map .literal ++ compile later) := by
  refine ⟨?_, isCompiledFrom_compile earlier, compile_append_inactive_cons earlier later quoted⟩
  intro text
  simp only [compile, matches_foldr_prepend_iff]
  rw [List.flatMap_append, matches_append_iff]

end ParameterExpansion.Glob
