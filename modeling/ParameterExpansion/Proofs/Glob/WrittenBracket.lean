import Mathlib.Data.List.Chain
import ParameterExpansion.Glob.Token

/-!
# Written bracket expressions

A bracket expression is written as its entries between brackets, behind a mark if it is negated.
Reading gives the same entries back, whatever text follows, if each of them stands where its
characters have no other role: a closing bracket comes first, a dash comes last, no opening bracket
meets a colon, and no entry in front is taken for a mark.  So the token that is read matches the
characters that the entries list, or those that they do not list.
-/

namespace ParameterExpansion.Glob

/-! ## Writing -/

/-- An entry as it stands between brackets. -/
def BracketItem.written : BracketItem → Text
  | .character c => [c]
  | .range low high => [low, '-', high]
  | .charClass kind => '[' :: ':' :: kind.closing

theorem BracketItem.exists_written_eq_cons (item : BracketItem) :
    ∃ c rest, item.written = c :: rest := by
  cases item <;> exact ⟨_, _, rfl⟩

/-- How a bracket expression is negated, if it is. -/
inductive Negation where
  | absent
  | exclamation
  | caret
  deriving DecidableEq, Repr

/-- The mark of a negation. -/
def Negation.written : Negation → Text
  | absent => []
  | exclamation => ['!']
  | caret => ['^']

/-- There is a mark. -/
def Negation.isPresent : Negation → Bool
  | absent => false
  | exclamation | caret => true

/-- A bracket expression as it is written. -/
def writeBracket (negation : Negation) (items : List BracketItem) : Text :=
  '[' :: negation.written ++ items.flatMap BracketItem.written ++ [']']

/-! ## Where entries may stand -/

/-- An opening bracket, as an entry, does not make the name of a class of what follows. -/
def BracketItem.CanPrecede (item next : BracketItem) : Prop :=
  item = .character '[' → next.written.head? ≠ some ':'

instance (item next : BracketItem) : Decidable (item.CanPrecede next) :=
  inferInstanceAs (Decidable (_ → _))

/-- No entry takes a character of its neighbour, and no range begins or ends in a role of its own. -/
structure IsSpaced (items : List BracketItem) : Prop where
  chain : items.IsChain BracketItem.CanPrecede
  dashLast : .character '-' ∉ items.dropLast
  ranges : ∀ low high, .range low high ∈ items → low ≠ '-' ∧ high ≠ ']'

/-- Entries that can be written as a bracket expression: each keeps the role it has. -/
structure IsWritable (negation : Negation) (items : List BracketItem) : Prop
    extends IsSpaced items where
  nonempty : items ≠ []
  closingFirst : ∀ item ∈ items.tail, item.written.head? ≠ some ']'
  unmarked : negation = .absent →
    ∀ item ∈ items.head?, item.written.head? ≠ some '!' ∧ item.written.head? ≠ some '^'

theorem IsSpaced.tail
    {item : BracketItem} {items : List BracketItem}
    (spaced : IsSpaced (item :: items)) :
    IsSpaced items where
  chain := spaced.chain.tail
  dashLast := by
    cases items with
    | nil => simp
    | cons next items => exact fun member => spaced.dashLast (List.mem_cons_of_mem _ member)
  ranges low high member := spaced.ranges low high (List.mem_cons_of_mem _ member)

/-- In front of a text, an entry takes no character of that text. -/
def BracketItem.StandsBefore (rest : Text) : BracketItem → Prop
  | .character c =>
      (c = '[' → rest.head? ≠ some ':') ∧
        ∀ high after, rest = '-' :: high :: after → high = ']'
  | .range _ high => high ≠ ']'
  | .charClass _ => True

/-- An entry takes nothing of the entries behind it and of the bracket that closes them. -/
theorem IsSpaced.standsBefore
    {item : BracketItem} {items : List BracketItem}
    (spaced : IsSpaced (item :: items))
    (rest : Text) :
    item.StandsBefore (items.flatMap BracketItem.written ++ ']' :: rest) := by
  cases item with
  | charClass kind => exact True.intro
  | range low high => exact (spaced.ranges low high List.mem_cons_self).2
  | character c =>
      cases items with
      | nil => exact ⟨by simp, by simp⟩
      | cons next items =>
          constructor
          · rintro rfl
            have apart := (List.isChain_cons_cons.mp spaced.chain).1 rfl
            rcases next.exists_written_eq_cons with ⟨first, others, written⟩
            simpa [written] using apart
          · intro high after same
            cases next with
            | charClass kind => simp [BracketItem.written] at same
            | range low other =>
                have bounds := spaced.ranges low other (by simp)
                exact (bounds.1 (List.cons.inj same).1).elim
            | character d =>
                -- The next entry is the dash, so it is the last one and the bracket closes behind it.
                obtain rfl : d = '-' := (List.cons.inj same).1
                cases items with
                | nil => exact (List.cons.inj (List.cons.inj same).2).1.symm
                | cons third items => exact (spaced.dashLast (by simp)).elim

/-! ## Reading -/

theorem CharacterClass.read?_closing_append (kind : CharacterClass) (rest : Text) :
    read? (kind.closing ++ rest) = some (kind, rest) := by
  cases kind <;> rfl

namespace Bracket

theorem readItem?_range
    {low high : Char}
    (closesNot : high ≠ ']')
    (rest : Text) :
    readItem? (low :: '-' :: high :: rest) = some (.range low high, rest) := by
  rw [readItem?]
  split
  · rename_i kind after named
    split at named <;> cases named
  · simp only [if_neg closesNot]

/-- A character is an entry of its own if neither a class nor a range begins with it. -/
theorem readItem?_character_iff (c : Char) (rest : Text) :
    readItem? (c :: rest) = some (.character c, rest) ↔
      (c = '[' → ∀ named, rest = ':' :: named → CharacterClass.read? named = none) ∧
        ∀ high after, rest = '-' :: high :: after → high = ']' := by
  constructor
  · intro found
    constructor
    · rintro rfl named rfl
      cases isClass : CharacterClass.read? named with
      | none => rfl
      | some result => simp [readItem?, isClass] at found
    · rintro high after rfl
      by_contra closesNot
      rw [readItem?_range closesNot] at found
      cases found
  · rintro ⟨namesNot, rangesNot⟩
    rw [readItem?.eq_def]
    dsimp only
    split
    · rename_i kind after named
      split at named
      · rename_i opens
        split at named
        · rw [namesNot opens _ rfl] at named
          cases named
        · cases named
      · cases named
    · split
      · rw [if_pos (rangesNot _ _ rfl)]
      · rfl

theorem readItem?_character
    {c : Char} {rest : Text}
    (stands : (BracketItem.character c).StandsBefore rest) :
    readItem? (c :: rest) = some (.character c, rest) := by
  rcases stands with ⟨namesNot, rangesNot⟩
  refine (readItem?_character_iff c rest).mpr ⟨?_, rangesNot⟩
  rintro opens named rfl
  exact (namesNot opens rfl).elim

/-- An entry is read as it was written. -/
theorem readItem?_written_append
    {item : BracketItem} {rest : Text}
    (stands : item.StandsBefore rest) :
    readItem? (item.written ++ rest) = some (item, rest) := by
  cases item with
  | character c => exact readItem?_character stands
  | range low high => exact readItem?_range stands rest
  | charClass kind =>
      simp only [BracketItem.written, List.cons_append, readItem?, if_true,
        CharacterClass.read?_closing_append]

/-- Reading goes on behind an entry unless the expression is closed in front of it. -/
theorem readItems?_of_readItem?
    {done : List BracketItem} {c : Char} {text rest : Text} {item : BracketItem}
    (goesOn : ¬ (c = ']' ∧ done ≠ []))
    (isRead : readItem? (c :: text) = some (item, rest)) :
    readItems? done (c :: text) = readItems? (item :: done) rest := by
  rw [readItems?, if_neg goesOn]
  split
  · rename_i unread
    rw [isRead] at unread
    cases unread
  · rename_i found after isFound
    rw [isRead] at isFound
    cases isFound
    rfl

/-- Reading passes an entry, which starts with a closing bracket only if it is the first. -/
theorem readItems?_written_append
    {item : BracketItem} {done : List BracketItem} {rest : Text}
    (stands : item.StandsBefore rest)
    (closingFirst : item.written.head? = some ']' → done = []) :
    readItems? done (item.written ++ rest) = readItems? (item :: done) rest := by
  have read := readItem?_written_append stands
  rcases item.exists_written_eq_cons with ⟨c, others, written⟩
  rw [written] at read closingFirst ⊢
  rw [List.cons_append] at read ⊢
  apply readItems?_of_readItem? _ read
  rintro ⟨rfl, nonempty⟩
  exact nonempty (closingFirst rfl)

/-- Behind the first entry, the others are read up to the bracket that closes the expression. -/
theorem readItems?_closing
    {items done : List BracketItem}
    (spaced : IsSpaced items)
    (opensNot : ∀ item ∈ items, item.written.head? ≠ some ']')
    (nonempty : done ≠ [])
    (rest : Text) :
    readItems? done (items.flatMap BracketItem.written ++ ']' :: rest) =
      some (done.reverse ++ items, rest) := by
  induction items generalizing done with
  | nil => simp [readItems?, nonempty]
  | cons item items ih =>
      rw [List.forall_mem_cons] at opensNot
      rw [List.flatMap_cons, List.append_assoc,
        readItems?_written_append (spaced.standsBefore rest) fun opens => (opensNot.1 opens).elim,
        ih spaced.tail opensNot.2 (by simp)]
      simp

/-- The entries of an expression are read as they were written. -/
theorem readItems?_flatMap_written
    {negation : Negation} {items : List BracketItem}
    (writable : IsWritable negation items)
    (rest : Text) :
    readItems? [] (items.flatMap BracketItem.written ++ ']' :: rest) = some (items, rest) := by
  cases items with
  | nil => exact (writable.nonempty rfl).elim
  | cons item items =>
      have spaced := writable.toIsSpaced
      rw [List.flatMap_cons, List.append_assoc,
        readItems?_written_append (spaced.standsBefore rest) fun _ => rfl,
        readItems?_closing spaced.tail writable.closingFirst (by simp)]
      rfl

/-- An expression is read as its entries are, behind a mark or where no mark stands. -/
theorem read?_of_readItems?
    {negation : Negation} {items : List BracketItem} {inner rest : Text}
    (unmarked : negation = .absent → inner.head? ≠ some '!' ∧ inner.head? ≠ some '^')
    (isRead : readItems? [] inner = some (items, rest)) :
    read? (negation.written ++ inner) = some (ofItems negation.isPresent items, rest) := by
  cases negation with
  | exclamation => simp [Negation.written, Negation.isPresent, read?, isRead]
  | caret => simp [Negation.written, Negation.isPresent, read?, isRead]
  | absent =>
      rcases unmarked rfl with ⟨notExclamation, notCaret⟩
      rw [Negation.written, List.nil_append]
      unfold read?
      split
      · exact (notExclamation rfl).elim
      · exact (notCaret rfl).elim
      · rw [isRead]
        rfl

/-- An expression is read as it was written, mark included. -/
theorem read?_written
    {negation : Negation} {items : List BracketItem}
    (writable : IsWritable negation items)
    (rest : Text) :
    read? (negation.written ++ (items.flatMap BracketItem.written ++ ']' :: rest)) =
      some (ofItems negation.isPresent items, rest) := by
  apply read?_of_readItems? _ (readItems?_flatMap_written writable rest)
  intro absent
  cases items with
  | nil => exact (writable.nonempty rfl).elim
  | cons item items =>
      have unmarked := writable.unmarked absent item rfl
      rcases item.exists_written_eq_cons with ⟨c, others, written⟩
      simpa [written] using unmarked

end Bracket

/-! ## Patterns -/

theorem readTokens_bracket
    {rest after : Text} {set : Bracket}
    (found : Bracket.read? rest = some (set, after))
    (done : List Token) :
    readTokens done ('[' :: rest) = readTokens (.bracket set :: done) after := by
  rw [readTokens]
  split
  · rename_i isRead
    rw [found] at isRead
    cases isRead
    rfl
  · rename_i unread
    rw [found] at unread
    cases unread

theorem readTokens_unclosed
    {rest : Text}
    (unread : Bracket.read? rest = none)
    (done : List Token) :
    readTokens done ('[' :: rest) = readTokens (.literal '[' :: done) rest := by
  rw [readTokens]
  split
  · rename_i isRead
    rw [unread] at isRead
    cases isRead
  · rfl

/-- Tokens read before come in front of those that are read. -/
theorem readTokens_append (done before : List Token) (text : Text) :
    readTokens (done ++ before) text = before.reverse ++ readTokens done text := by
  fun_induction readTokens done text with
  | case1 done => simp [readTokens]
  | case2 done rest ih => rw [readTokens, ← ih, List.cons_append]
  | case3 done rest ih => rw [readTokens, ← ih, List.cons_append]
  | case4 done rest set after found shorter ih =>
      rw [readTokens_bracket found, ← ih, List.cons_append]
  | case5 done rest unread ih => rw [readTokens_unclosed unread, ← ih, List.cons_append]
  | case6 done c rest notStar notAny notBracket ih =>
      rw [readTokens, ← ih, List.cons_append]
      all_goals assumption

/-- A bracket expression in front of pattern text is its first token. -/
theorem compile_writeBracket_append
    {negation : Negation} {items : List BracketItem}
    (writable : IsWritable negation items)
    (rest : Text) :
    compile [⟨writeBracket negation items ++ rest, true⟩] =
      .bracket (Bracket.ofItems negation.isPresent items) :: compile [⟨rest, true⟩] := by
  have text :
      writeBracket negation items ++ rest =
        '[' :: (negation.written ++ (items.flatMap BracketItem.written ++ ']' :: rest)) := by
    simp [writeBracket]
  have tokens :
      readTokens [] (writeBracket negation items ++ rest) =
        .bracket (Bracket.ofItems negation.isPresent items) :: readTokens [] rest := by
    rw [text, readTokens_bracket (Bracket.read?_written writable rest)]
    exact readTokens_append [] [_] rest
  simp only [compile, List.flatMap_singleton, Piece.tokens, if_true, tokens, List.foldr_cons]
  rfl

/--
A bracket expression in front of pattern text is read as one token, whatever that text is, and the
text is read as it would be alone.  The token matches a character if one of the entries lists it,
or, behind a mark, if none of them does.
-/
theorem compile_bracket_and_contains_iff
    {negation : Negation} {items : List BracketItem}
    (writable : IsWritable negation items)
    (rest : Text) :
    ∃ set,
      compile [⟨writeBracket negation items ++ rest, true⟩] =
        .bracket set :: compile [⟨rest, true⟩] ∧
      ∀ c,
        (Token.bracket set).contains c = true ↔
          ((∃ item ∈ items, item.contains c = true) ↔ negation = .absent) := by
  refine ⟨_, compile_writeBracket_append writable rest, ?_⟩
  intro c
  have listed :
      (Bracket.ofItems negation.isPresent items).lists c = true ↔
        ∃ item ∈ items, item.contains c = true := by
    rw [Bracket.lists_ofItems, List.any_eq_true]
  have marked : (Bracket.ofItems negation.isPresent items).negated = negation.isPresent := rfl
  rw [← listed, Token.contains, Bracket.contains, marked]
  cases negation <;> simp [Negation.isPresent]

/-- Before `:]*`, the text `[^]a+--[:digit:][-]` is one token, and it does not match a comma. -/
theorem compile_bracket_and_contains_iff_closing_and_dash :
    let items : List BracketItem :=
      [.character ']', .character 'a', .range '+' '-', .charClass .digit, .character '[',
        .character '-']
    let text := "[^]a+--[:digit:][-]:]*".toList
    IsWritable .caret items ∧
      text = writeBracket .caret items ++ [':', ']', '*'] ∧
      ∃ set,
        compile [⟨text, true⟩] = .bracket set :: compile [⟨[':', ']', '*'], true⟩] ∧
          (Token.bracket set).contains ',' = false ∧ (Token.bracket set).contains ':' = true := by
  intro items text
  have writable : IsWritable .caret items := {
    chain := by decide
    dashLast := by decide
    ranges := by
      intro low high member
      obtain ⟨rfl, rfl⟩ : low = '+' ∧ high = '-' := by simpa [items] using member
      decide
    nonempty := by decide
    closingFirst := by decide
    unmarked := by decide }
  have same : text = writeBracket .caret items ++ [':', ']', '*'] := by decide
  rcases compile_bracket_and_contains_iff writable [':', ']', '*'] with ⟨set, compiled, contains⟩
  refine ⟨writable, same, set, ?_, ?_, ?_⟩
  · rw [same, compiled]
  · rw [Bool.eq_false_iff, ne_eq, contains]
    decide
  · rw [contains]
    decide

end ParameterExpansion.Glob
