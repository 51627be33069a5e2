import ParameterExpansion.Proofs.Glob.Compilation

/-!
# Pattern text cut into pieces

Pieces are read one by one, so cutting a pattern text into active pieces changes nothing as long as
no bracket expression is cut.  What carries the proofs is that a bracket expression which is closed
is read in the same way whatever follows it; so reading a text in front of another differs from
reading the two apart only at an opening bracket that is closed in the other text.  There the pieces
give a literal bracket, and the tokens are not those of the whole text any more.
-/

namespace ParameterExpansion.Glob

/-! ## Closed bracket expressions -/

theorem CharacterClass.read?_append
    {text rest : Text} {kind : CharacterClass}
    (found : read? text = some (kind, rest))
    (more : Text) :
    read? (text ++ more) = some (kind, rest ++ more) := by
  rw [eq_of_read? found, List.append_assoc]
  exact read?_closing_append kind _

/-- A name that is not known in front of a closing bracket is not known in front of more text. -/
theorem CharacterClass.read?_append_eq_none
    {text : Text}
    (unread : read? text = none)
    (closes : ']' ∈ text)
    (more : Text) :
    read? (text ++ more) = none := by
  cases found : read? (text ++ more) with
  | none => rfl
  | some result =>
      rcases result with ⟨kind, after⟩
      rcases List.append_eq_append_iff.mp (eq_of_read? found) with
        ⟨others, closing, _⟩ | ⟨others, whole, _⟩
      · -- The name would end behind the text, and there is no closing bracket before its end.
        rcases List.eq_nil_or_concat others with rfl | ⟨front, last, rfl⟩
        · rw [List.append_nil] at closing
          rw [← closing, ← List.append_nil kind.closing, read?_closing_append] at unread
          cases unread
        · have inside : ']' ∈ kind.closing.dropLast := by
            rw [closing, List.concat_eq_append, ← List.append_assoc, List.dropLast_concat]
            exact List.mem_append_left _ closes
          cases kind <;> exact absurd inside (by decide)
      · rw [whole, read?_closing_append] at unread
        cases unread

namespace Bracket

/-- An entry in front of the closing bracket is read in the same way whatever follows that. -/
theorem readItem?_append
    {text rest : Text} {item : BracketItem}
    (found : readItem? text = some (item, rest))
    (closes : ']' ∈ rest)
    (more : Text) :
    readItem? (text ++ more) = some (item, rest ++ more) := by
  have whole := eq_of_readItem? found
  subst whole
  rw [List.append_assoc]
  cases item with
  | charClass kind => exact readItem?_written_append True.intro
  | range low high =>
      apply readItem?_written_append
      rintro rfl
      simp [BracketItem.written, readItem?] at found
  | character c =>
      rcases (readItem?_character_iff c rest).mp found with ⟨namesNot, rangesNot⟩
      rcases List.exists_cons_of_ne_nil (List.ne_nil_of_mem closes) with ⟨first, others, rfl⟩
      refine (readItem?_character_iff c _).mpr ⟨?_, ?_⟩
      · intro opens named same
        obtain ⟨rfl, rfl⟩ := List.cons.inj same
        have closesLater : ']' ∈ others := List.mem_of_ne_of_mem (by decide) closes
        exact CharacterClass.read?_append_eq_none (namesNot opens others rfl) closesLater more
      · intro high after same
        obtain ⟨rfl, behind⟩ := List.cons.inj same
        have closesLater : ']' ∈ others := List.mem_of_ne_of_mem (by decide) closes
        rcases List.exists_cons_of_ne_nil (List.ne_nil_of_mem closesLater) with
          ⟨second, last, rfl⟩
        obtain ⟨rfl, _⟩ := List.cons.inj behind
        exact rangesNot _ last rfl

theorem readItems?_append
    {done items : List BracketItem} {text rest : Text}
    (found : readItems? done text = some (items, rest))
    (more : Text) :
    readItems? done (text ++ more) = some (items, rest ++ more) := by
  fun_induction readItems? done text with
  | case1 => cases found
  | case2 done c tail closes =>
      cases found
      rw [List.cons_append, readItems?, if_pos closes]
  | case3 => cases found
  | case4 done c tail goesOn item after isRead shorter ih =>
      have closesLater : ']' ∈ after := by
        rcases eq_of_readItems? found with ⟨_, others, _, rfl⟩
        simp
      have isReadAlso := readItem?_append isRead closesLater more
      rw [List.cons_append] at isReadAlso ⊢
      rw [readItems?_of_readItem? goesOn isReadAlso]
      exact ih found

/-- A bracket expression that is closed is read in the same way whatever follows it. -/
theorem read?_append
    {text rest : Text} {set : Bracket}
    (found : read? text = some (set, rest))
    (more : Text) :
    read? (text ++ more) = some (set, rest ++ more) := by
  rcases exists_readItems?_of_read? found with
    ⟨negation, inner, items, rfl, unmarked, isRead, rfl⟩
  rw [List.append_assoc]
  refine read?_of_readItems? ?_ (readItems?_append isRead more)
  cases inner with
  | nil => simp [readItems?] at isRead
  | cons => exact unmarked

end Bracket

/-! ## Reading one text in front of another -/

/-- The first token that is read from a text, and the text that is left. -/
inductive TakesToken : Text → Token → Text → Prop where
  | star (rest : Text) : TakesToken ('*' :: rest) .star rest
  | any (rest : Text) : TakesToken ('?' :: rest) .any rest
  | bracket {rest after : Text} {set : Bracket} (found : Bracket.read? rest = some (set, after)) :
      TakesToken ('[' :: rest) (.bracket set) after
  | unclosed {rest : Text} (unread : Bracket.read? rest = none) :
      TakesToken ('[' :: rest) (.literal '[') rest
  | literal {c : Char} (plain : c ∉ ['*', '?', '[']) (rest : Text) :
      TakesToken (c :: rest) (.literal c) rest

theorem exists_takesToken (c : Char) (text : Text) :
    ∃ token rest, TakesToken (c :: text) token rest := by
  by_cases plain : c ∉ ['*', '?', '[']
  · exact ⟨_, _, .literal plain text⟩
  · simp only [List.mem_cons, List.not_mem_nil, or_false, not_not] at plain
    rcases plain with rfl | rfl | rfl
    · exact ⟨_, _, .star text⟩
    · exact ⟨_, _, .any text⟩
    · cases found : Bracket.read? text with
      | none => exact ⟨_, _, .unclosed found⟩
      | some result => exact ⟨_, _, .bracket found⟩

theorem TakesToken.length_lt
    {text rest : Text} {token : Token}
    (takes : TakesToken text token rest) :
    rest.length < text.length := by
  cases takes with
  | star | any | unclosed | literal => exact Nat.lt_succ_self _
  | bracket found => exact (Bracket.length_lt_of_read? found).trans (Nat.lt_succ_self _)

theorem TakesToken.readTokens_eq
    {text rest : Text} {token : Token}
    (takes : TakesToken text token rest) :
    readTokens [] text = token :: readTokens [] rest := by
  have goesOn : readTokens [token] rest = token :: readTokens [] rest := readTokens_append [] [_] _
  cases takes with
  | star => rw [readTokens, goesOn]
  | any => rw [readTokens, goesOn]
  | bracket found => rw [readTokens_bracket found, goesOn]
  | unclosed unread => rw [readTokens_unclosed unread, goesOn]
  | literal plain =>
      simp only [List.mem_cons, List.not_mem_nil, or_false, not_or] at plain
      rcases plain with ⟨notStar, notAny, notBracket⟩
      rw [readTokens, goesOn]
      all_goals assumption

/-- In front of more text the same token is read, unless that text closes a bracket expression. -/
theorem TakesToken.append_or
    {text rest : Text} {token : Token}
    (takes : TakesToken text token rest)
    (behind : Text) :
    TakesToken (text ++ behind) token (rest ++ behind) ∨
      token = .literal '[' ∧ ∃ set after, TakesToken (text ++ behind) (.bracket set) after := by
  cases takes with
  | star => exact Or.inl (.star _)
  | any => exact Or.inl (.any _)
  | literal plain => exact Or.inl (.literal plain _)
  | bracket found => exact Or.inl (.bracket (Bracket.read?_append found behind))
  | unclosed unread =>
      cases found : Bracket.read? (rest ++ behind) with
      | none => exact Or.inl (.unclosed found)
      | some result => exact Or.inr ⟨rfl, _, _, .bracket found⟩

/--
Reading the text comes to an opening bracket that is literal in the text alone and opens a bracket
expression in front of the text behind.
-/
inductive OpensInto (behind : Text) : Text → Prop where
  | here {text rest after : Text} {set : Bracket} (alone : TakesToken text (.literal '[') rest)
      (together : TakesToken (text ++ behind) (.bracket set) after) : OpensInto behind text
  | later {text rest : Text} {token : Token} (takes : TakesToken text token rest)
      (opens : OpensInto behind rest) : OpensInto behind text

/-- Two texts are read one after the other if no bracket expression goes on in the second. -/
theorem readTokens_append_of_not_opensInto
    {text behind : Text}
    (within : ¬ OpensInto behind text) :
    readTokens [] (text ++ behind) = readTokens [] text ++ readTokens [] behind := by
  induction size : text.length using Nat.strong_induction_on generalizing text with
  | h size ih =>
  subst size
  cases text with
  | nil => simp [readTokens]
  | cons c tail =>
      rcases exists_takesToken c tail with ⟨token, rest, takes⟩
      rcases takes.append_or behind with together | ⟨rfl, set, after, together⟩
      · have later := ih rest.length takes.length_lt (fun opens => within (.later takes opens)) rfl
        rw [takes.readTokens_eq, together.readTokens_eq, later, List.cons_append]
      · exact (within (.here takes together)).elim

/-- Two patterns are alike up to a literal bracket in the one and a bracket expression in the other. -/
def PartAtBracket (apart together : List Token) : Prop :=
  ∃ front others others' set,
    apart = front ++ .literal '[' :: others ∧
      together = front ++ .bracket set :: others'

theorem PartAtBracket.append_left
    {apart together : List Token}
    (parts : PartAtBracket apart together)
    (front : List Token) :
    PartAtBracket (front ++ apart) (front ++ together) := by
  rcases parts with ⟨common, others, others', set, rfl, rfl⟩
  refine ⟨front ++ common, others, others', set, ?_, ?_⟩
  · rw [List.append_assoc]
  · rw [List.append_assoc]

theorem PartAtBracket.append_right
    {apart together : List Token}
    (parts : PartAtBracket apart together)
    (more : List Token) :
    PartAtBracket (apart ++ more) together := by
  rcases parts with ⟨front, others, others', set, rfl, rfl⟩
  exact ⟨front, others ++ more, others', set, by simp, rfl⟩

/-- Making one star of neighbouring stars does not hide where two patterns part. -/
theorem PartAtBracket.foldr_prepend_ne
    {apart together : List Token}
    (parts : PartAtBracket apart together) :
    apart.foldr prepend [] ≠ together.foldr prepend [] := by
  rcases parts with ⟨front, others, others', set, rfl, rfl⟩
  have bracket : Token.literal '[' ≠ .star := by simp
  have expression : Token.bracket set ≠ .star := by simp
  rw [foldr_prepend_append_cons bracket, foldr_prepend_append_cons expression]
  simp

/-- Where a bracket expression goes on in the text behind, reading the two texts apart goes wrong. -/
theorem OpensInto.partAtBracket
    {text behind : Text}
    (opens : OpensInto behind text) :
    PartAtBracket (readTokens [] text) (readTokens [] (text ++ behind)) := by
  induction opens with
  | here alone together =>
      rw [alone.readTokens_eq, together.readTokens_eq]
      exact ⟨[], _, _, _, rfl, rfl⟩
  | later takes opens ih =>
      rw [takes.readTokens_eq]
      rcases takes.append_or behind with together | ⟨rfl, set, after, together⟩
      · rw [together.readTokens_eq]
        exact ih.append_left [_]
      · rw [together.readTokens_eq]
        exact ⟨[], _, _, _, rfl, rfl⟩

/-! ## Pieces -/

/-- No bracket expression of the joined text goes on from one piece into the next ones. -/
def CutsNoBracket : List Piece → Prop
  | [] => True
  | piece :: pieces => ¬ OpensInto (pieces.flatMap Piece.text) piece.text ∧ CutsNoBracket pieces

theorem Piece.tokens_of_active
    {piece : Piece}
    (active : piece.active = true) :
    piece.tokens = readTokens [] piece.text := by
  rw [Piece.tokens, if_pos active]

theorem flatMap_tokens_of_cutsNoBracket
    {pieces : List Piece}
    (active : ∀ piece ∈ pieces, piece.active = true)
    (whole : CutsNoBracket pieces) :
    pieces.flatMap Piece.tokens = readTokens [] (pieces.flatMap Piece.text) := by
  induction pieces with
  | nil => simp [readTokens]
  | cons piece pieces ih =>
      rcases List.forall_mem_cons.mp active with ⟨first, others⟩
      rw [List.flatMap_cons, List.flatMap_cons, readTokens_append_of_not_opensInto whole.1,
        ih others whole.2, Piece.tokens_of_active first]

theorem partAtBracket_of_not_cutsNoBracket
    {pieces : List Piece}
    (active : ∀ piece ∈ pieces, piece.active = true)
    (cut : ¬ CutsNoBracket pieces) :
    PartAtBracket (pieces.flatMap Piece.tokens) (readTokens [] (pieces.flatMap Piece.text)) := by
  induction pieces with
  | nil => exact (cut True.intro).elim
  | cons piece pieces ih =>
      rcases List.forall_mem_cons.mp active with ⟨first, others⟩
      rw [List.flatMap_cons, List.flatMap_cons, Piece.tokens_of_active first]
      by_cases opens : OpensInto (pieces.flatMap Piece.text) piece.text
      · exact opens.partAtBracket.append_right _
      · rw [readTokens_append_of_not_opensInto opens]
        exact (ih others fun whole => cut ⟨opens, whole⟩).append_left _

theorem compile_joined (text : Text) :
    compile [⟨text, true⟩] = (readTokens [] text).foldr prepend [] := by
  rw [compile, List.flatMap_singleton]
  rfl

/--
Active pieces are compiled to the tokens of their joined text exactly if no bracket expression of
that text is cut.  Removing the pattern of the pieces is then removing the pattern of the text, from
every value, at either end and for the longest and the shortest match.
-/
theorem compile_eq_compile_joined_iff_and_remove_eq
    {pieces : List Piece}
    (active : ∀ piece ∈ pieces, piece.active = true) :
    (compile pieces = compile [⟨pieces.flatMap Piece.text, true⟩] ↔ CutsNoBracket pieces) ∧
    (CutsNoBracket pieces → ∀ side longest value,
      remove side longest (compile pieces) value =
        remove side longest (compile [⟨pieces.flatMap Piece.text, true⟩]) value) := by
  have same (whole : CutsNoBracket pieces) :
      compile pieces = compile [⟨pieces.flatMap Piece.text, true⟩] := by
    rw [compile_joined, compile, flatMap_tokens_of_cutsNoBracket active whole]
  refine ⟨⟨?_, same⟩, ?_⟩
  · intro compiled
    by_contra cut
    rw [compile_joined] at compiled
    exact (partAtBracket_of_not_cutsNoBracket active cut).foldr_prepend_ne compiled
  · intro whole side longest value
    rw [same whole]

/--
The pieces `[!a-c]`, `*[` and `?` cut no bracket expression, for the bracket that opens in the second
one is never closed.
-/
theorem compile_eq_compile_joined_iff_and_remove_eq_unclosed :
    let pieces : List Piece :=
      [⟨"[!a-c]".toList, true⟩, ⟨"*[".toList, true⟩, ⟨"?".toList, true⟩]
    (∀ piece ∈ pieces, piece.active = true) ∧ CutsNoBracket pieces ∧
      remove .leading false (compile pieces) "x[[]y".toList = "]y".toList := by
  intro pieces
  have active : ∀ piece ∈ pieces, piece.active = true := by decide
  have compiled : compile pieces = compile [⟨pieces.flatMap Piece.text, true⟩] := by
    decide +kernel
  rcases compile_eq_compile_joined_iff_and_remove_eq active with ⟨iffWhole, removes⟩
  have whole := iffWhole.mp compiled
  refine ⟨active, whole, (removes whole .leading false _).trans ?_⟩
  decide +kernel

/--
In the pieces `[`, `a-b` and `]` the brackets are literal, and `abc` does not begin with them; joined,
the pieces are a bracket expression that takes the first character off.
-/
theorem remove_compile_ne_remove_joined :
    let pieces : List Piece := [⟨['['], true⟩, ⟨['a', '-', 'b'], true⟩, ⟨[']'], true⟩]
    (∀ piece ∈ pieces, piece.active = true) ∧
      remove .leading false (compile pieces) ['a', 'b', 'c'] = ['a', 'b', 'c'] ∧
      remove .leading false (compile [⟨pieces.flatMap Piece.text, true⟩]) ['a', 'b', 'c'] =
        ['b', 'c'] := by
  decide +kernel

end ParameterExpansion.Glob
