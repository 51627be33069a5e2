import ParameterExpansion.Proofs.Template.Fragments
import ParameterExpansion.Template

/-!
# Parsed words are in normal form

Contents inherit from lexemes what literal text may hold, and joining leaves no two literal runs
side by side.  A word that was parsed has one part for each content, so it is in normal form if the
words of its operations are.  These come from the fragments of a balanced body, which may stand
where they do.  The main statement follows by induction over the tree: every template that is parsed
gives a word in normal form.
-/

namespace ParameterExpansion.Template

/-! ## Where contents come from -/

/-- What a content of a segment may hold if it is joined from lexemes. -/
def Content.IsFrom (lexemes : List Lexeme) : Content → Prop
  | .literal text => text ≠ [] ∧ ∀ c ∈ text, c = '$' ∨ .plain c ∈ lexemes
  | .escaped c => .escaped c ∈ lexemes
  | .expansion body => .expansion body ∈ lexemes

theorem Content.IsFrom.cons
    {lexemes : List Lexeme} {content : Content}
    (isFrom : content.IsFrom lexemes)
    (lexeme : Lexeme) :
    content.IsFrom (lexeme :: lexemes) := by
  cases content with
  | literal text =>
      refine ⟨isFrom.1, ?_⟩
      intro c member
      exact (isFrom.2 c member).imp_right (List.mem_cons_of_mem lexeme)
  | escaped c => exact List.mem_cons_of_mem lexeme isFrom
  | expansion body => exact List.mem_cons_of_mem lexeme isFrom

theorem isFrom_of_mem_joinChar
    {lexemes : List Lexeme} {contents : List Content} {content : Content} {c : Char}
    (allFrom : ∀ other ∈ contents, other.IsFrom lexemes)
    (isFrom : c = '$' ∨ .plain c ∈ lexemes)
    (member : content ∈ joinChar c contents) :
    content.IsFrom lexemes := by
  have single : (Content.literal [c]).IsFrom lexemes := by
    refine ⟨by simp, ?_⟩
    simpa using isFrom
  unfold joinChar at member
  split at member
  · rename_i text rest
    rcases List.mem_cons.mp member with rfl | member
    · have others := (allFrom _ List.mem_cons_self).2
      refine ⟨by simp, ?_⟩
      intro other isOther
      rcases List.mem_cons.mp isOther with rfl | isOther
      · exact isFrom
      · exact others other isOther
    · exact allFrom _ (List.mem_cons_of_mem _ member)
  · rcases List.mem_cons.mp member with rfl | member
    · exact single
    · exact allFrom _ member

theorem isFrom_of_mem_joinLexemes
    {lexemes : List Lexeme} {content : Content}
    (member : content ∈ joinLexemes lexemes) :
    content.IsFrom lexemes := by
  induction lexemes generalizing content with
  | nil => simp [joinLexemes] at member
  | cons lexeme lexemes ih =>
      have others : ∀ other ∈ joinLexemes lexemes, other.IsFrom (lexeme :: lexemes) := by
        intro other isOther
        exact (ih isOther).cons lexeme
      cases lexeme with
      | plain c => exact isFrom_of_mem_joinChar others (Or.inr List.mem_cons_self) member
      | dollarPair => exact isFrom_of_mem_joinChar others (Or.inl rfl) member
      | escaped c =>
          rcases List.mem_cons.mp member with rfl | member
          · exact List.mem_cons_self
          · exact others content member
      | expansion body =>
          rcases List.mem_cons.mp member with rfl | member
          · exact List.mem_cons_self
          · exact others content member

/-! ## Neighbours -/

/-- The content is literal text. -/
def Content.isLiteral : Content → Bool
  | .literal _ => true
  | _ => false

theorem isChain_joinChar
    {contents : List Content}
    (chain : (contents.map Content.isLiteral).IsChain fun left right => (left && right) = false)
    (c : Char) :
    ((joinChar c contents).map Content.isLiteral).IsChain
      fun left right => (left && right) = false := by
  rcases contents with _ | ⟨content, rest⟩
  · exact List.isChain_singleton _
  · cases content with
    | literal text => exact chain
    | escaped quoted => exact List.isChain_cons_cons.mpr ⟨rfl, chain⟩
    | expansion body => exact List.isChain_cons_cons.mpr ⟨rfl, chain⟩

theorem isChain_joinLexemes (lexemes : List Lexeme) :
    ((joinLexemes lexemes).map Content.isLiteral).IsChain
      fun left right => (left && right) = false := by
  induction lexemes with
  | nil => exact List.isChain_nil
  | cons lexeme lexemes ih =>
      cases lexeme with
      | plain c => exact isChain_joinChar ih c
      | dollarPair => exact isChain_joinChar ih '$'
      | escaped c =>
          refine List.isChain_cons.mpr ⟨?_, ih⟩
          intro _ _
          rfl
      | expansion body =>
          refine List.isChain_cons.mpr ⟨?_, ih⟩
          intro _ _
          rfl

theorem map_isLiteral_of_parsesTo
    {limits : Limits} {depth : Int} {contents : List Content} {word : Word}
    (parses : List.Forall₂ (ParsesTo limits depth) contents word) :
    word.map Part.isLiteral = contents.map Content.isLiteral := by
  induction parses with
  | nil => rfl
  | cons first others ih =>
      rw [List.map_cons, List.map_cons, ih]
      cases first with
      | literal text => rfl
      | escaped c => rfl
      | expansion parsed =>
          rcases parseBody_eq_ok_iff.mp parsed with ⟨name, source, operation, _, _, rfl⟩
          rfl

/-! ## Parsed words and their texts -/

theorem joinChar_ne_nil (c : Char) (contents : List Content) :
    joinChar c contents ≠ [] := by
  unfold joinChar
  split
  · simp
  · simp

theorem joinLexemes_eq_nil_iff (lexemes : List Lexeme) :
    joinLexemes lexemes = [] ↔ lexemes = [] := by
  cases lexemes with
  | nil => simp [joinLexemes]
  | cons lexeme lexemes => cases lexeme <;> simp [joinLexemes, joinChar_ne_nil]

/-- A word is empty exactly if its text is. -/
theorem eq_nil_iff_of_parseWord
    {limits : Limits} {escapes : Bool} {depth : Int} {text : Text} {word : Word}
    (parsed : parseWord limits escapes depth text = .ok word) :
    word = [] ↔ text = [] := by
  rcases parseWord_eq_ok_iff.mp parsed with ⟨_, lexemes, lexes, parses⟩
  constructor
  · rintro rfl
    have noContents := List.forall₂_nil_right_iff.mp parses
    rw [joinLexemes_eq_nil_iff] at noContents
    rw [← lexes.spelling, noContents]
    rfl
  · rintro rfl
    cases lexes
    exact List.forall₂_nil_left_iff.mp parses

theorem eq_of_joinChar_eq
    {c first : Char} {rest : Text} {contents others : List Content}
    (joined : joinChar c contents = .literal (first :: rest) :: others) :
    c = first := by
  unfold joinChar at joined
  split at joined
  · simp at joined
    exact joined.1.1
  · simp at joined
    exact joined.1.1

theorem startsWith_part_iff
    {c : Char} {word : Word} :
    StartsWith Part.startsWith c word ↔
      ∃ rest others, word = .literal (c :: rest) :: others := by
  constructor
  · intro starts
    rcases word with _ | ⟨part, others⟩
    · simp [StartsWith] at starts
    · cases part with
      | escaped text => simp [StartsWith, Part.startsWith] at starts
      | expansion name operation raw => simp [StartsWith, Part.startsWith] at starts
      | literal text =>
          cases text with
          | nil => simp [StartsWith, Part.startsWith] at starts
          | cons first rest =>
              have same : first = c := by
                simpa [StartsWith, Part.startsWith] using starts
              subst same
              exact ⟨rest, others, rfl⟩
  · rintro ⟨rest, others, rfl⟩
    simp [StartsWith, Part.startsWith]

theorem ParsesTo.eq_literal
    {limits : Limits} {depth : Int} {content : Content} {text : Text}
    (parses : ParsesTo limits depth content (.literal text)) :
    content = .literal text := by
  cases parses with
  | literal text => rfl
  | expansion parsed =>
      rcases parseBody_eq_ok_iff.mp parsed with ⟨name, source, operation, _, _, same⟩
      cases same

/-- Literal text that starts a word starts its text, unless it is a dollar. -/
theorem startsWith_of_parseWord
    {limits : Limits} {escapes : Bool} {depth : Int} {text : Text} {word : Word} {c : Char}
    (parsed : parseWord limits escapes depth text = .ok word)
    (notDollar : c ≠ '$')
    (starts : StartsWith Part.startsWith c word) :
    StartsWith isFirst c text := by
  rcases parseWord_eq_ok_iff.mp parsed with ⟨_, lexemes, lexes, parses⟩
  rcases startsWith_part_iff.mp starts with ⟨rest, others, rfl⟩
  rcases List.forall₂_cons_right_iff.mp parses with ⟨content, contents, first, _, joined⟩
  obtain rfl := first.eq_literal
  cases lexes with
  | nil => simp [joinLexemes] at joined
  | pair lexes => exact (notDollar (eq_of_joinChar_eq joined).symm).elim
  | expansion balanced lexes => simp [joinLexemes] at joined
  | escaped quotes lexes => simp [joinLexemes] at joined
  | @plain first text lexemes marksNot quotesNot lexes =>
      obtain rfl := eq_of_joinChar_eq joined
      exact (startsWith_isFirst_iff _ _).mpr ⟨text, rfl⟩

/-! ## Normal forms -/

theorem exists_parsesTo_of_mem
    {limits : Limits} {depth : Int} {contents : List Content} {word : Word} {part : Part}
    (parses : List.Forall₂ (ParsesTo limits depth) contents word)
    (member : part ∈ word) :
    ∃ content ∈ contents, ParsesTo limits depth content part := by
  induction parses with
  | nil => simp at member
  | cons first others ih =>
      rcases List.mem_cons.mp member with rfl | member
      · exact ⟨_, List.mem_cons_self, first⟩
      · rcases ih member with ⟨content, isContent, parsesTo⟩
        exact ⟨content, List.mem_cons_of_mem _ isContent, parsesTo⟩

/-- A word is in normal form where its text may stand. -/
theorem normalWord_of_parseWord
    {limits : Limits} {depth : Int} {place : Place} {text : Text} {word : Word}
    (parsed : parseWord limits place.quotes depth text = .ok word)
    (holds : place.Holds text) :
    NormalWord place word := by
  induction word using word_induction generalizing depth place text with
  | step word ih =>
  rcases parseWord_eq_ok_iff.mp parsed with ⟨_, lexemes, lexes, parses⟩
  rcases holds with ⟨others, otherLexes, allowed⟩
  rw [← lexes.unique otherLexes] at allowed
  rw [normalWord_iff, map_isLiteral_of_parsesTo parses]
  refine ⟨?_, isChain_joinLexemes lexemes⟩
  intro part member
  rcases exists_parsesTo_of_mem parses member with ⟨content, isContent, parsesTo⟩
  have isFrom := isFrom_of_mem_joinLexemes isContent
  cases parsesTo with
  | literal text =>
      refine ⟨isFrom.1, ?_⟩
      intro c isChar
      rcases isFrom.2 c isChar with rfl | isPlain
      · cases place <;> decide
      · exact allowed c isPlain
  | escaped c => exact ⟨lexes.quotes_of_mem isFrom, rfl⟩
  | expansion parsedBody =>
      rcases parseBody_eq_ok_iff.mp parsedBody with
        ⟨name, source, operation, read, related, rfl⟩
      have balanced := lexes.balanced_of_mem isFrom
      rcases isFragmented_of_readBody read balanced with ⟨isName, distinct, each⟩
      refine ⟨isName, ?_, ?_⟩
      · apply distinct.of_related related
        · exact fun _ _ parsedWord => eq_nil_iff_of_parseWord parsedWord
        · rintro c (rfl | rfl) source word parsedWord starts
          · exact startsWith_of_parseWord parsedWord (by decide) starts
          · exact startsWith_of_parseWord parsedWord (by decide) starts
      · rw [normalOperation_iff]
        apply each.of_related related
        intro stands quotes source word isWord parsedWord holds
        rw [← quotes] at parsedWord
        exact ih name operation _ member word isWord parsedWord holds

/-- Every template that can be parsed gives a word in normal form. -/
theorem normalWord_of_parseText
    {limits : Limits} {text : Text} {word : Word}
    (parsed : parseText limits text = .ok word) :
    NormalWord .top word := by
  rw [parseText] at parsed
  split at parsed
  · cases parsed
  · rcases parseWord_eq_ok_iff.mp parsed with ⟨_, lexemes, lexes, _⟩
    have holds : Place.top.Holds text := ⟨lexemes, lexes, fun _ _ => True.intro⟩
    exact normalWord_of_parseWord parsed holds

/-- A template in which a dollar pair, a separator and a quoted brace are read. -/
theorem parseText_quotedReplacement :
    parseText {} ('$' :: '$' :: enclose ['x', '/', 'b', '/', '\\', '}']) =
      .ok [.literal ['$'],
        .expansion ['x'] (.replace .first [.literal ['b']] [.escaped ['}']])
          (enclose ['x', '/', 'b', '/', '\\', '}'])] := by
  have balanced : Balanced ['x', '/', 'b', '/', '\\', '}'] := by
    have closed :
        closeBody? ['x', '/', 'b', '/', '\\', '}', '}'] =
          some (['x', '/', 'b', '/', '\\', '}'], []) := rfl
    exact (closeBody?_eq_some_iff.mp closed).1
  have read :
      readBody ['x', '/', 'b', '/', '\\', '}'] =
        .ok (['x'], .replace .first ['b'] ['\\', '}']) := by
    cbv
  have pattern : parseWord {} true 1 ['b'] = .ok [.literal ['b']] := by
    refine parseWord_eq_ok_iff.mpr ⟨by decide, [.plain 'b'], ?_, ?_⟩
    · exact Lexes.plain (by simp [IsMark]) (by simp [IsQuote]) Lexes.nil
    · exact List.Forall₂.cons (ParsesTo.literal _) List.Forall₂.nil
  have replacement : parseWord {} true 1 ['\\', '}'] = .ok [.escaped ['}']] := by
    refine parseWord_eq_ok_iff.mpr ⟨by decide, [.escaped '}'], ?_, ?_⟩
    · exact Lexes.escaped rfl Lexes.nil
    · exact List.Forall₂.cons (ParsesTo.escaped _) List.Forall₂.nil
  rw [parseText, if_neg (by decide)]
  have lexes := Lexes.pair (Lexes.expansion balanced (@Lexes.nil false))
  refine parseWord_eq_ok_iff.mpr ⟨by decide, _, lexes, ?_⟩
  refine List.Forall₂.cons (ParsesTo.literal ['$']) (List.Forall₂.cons ?_ List.Forall₂.nil)
  apply ParsesTo.expansion
  apply parseBody_eq_ok_iff.mpr
  exact ⟨['x'], _, _, read, Operation.Related.replace _ pattern replacement, rfl⟩

theorem normalWord_of_quotedReplacement :
    NormalWord .top
      [.literal ['$'],
        .expansion ['x'] (.replace .first [.literal ['b']] [.escaped ['}']])
          (enclose ['x', '/', 'b', '/', '\\', '}'])] := by
  exact normalWord_of_parseText parseText_quotedReplacement

end ParameterExpansion.Template
