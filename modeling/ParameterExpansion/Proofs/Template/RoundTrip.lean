import ParameterExpansion.Proofs.Template.ParsedForm
import ParameterExpansion.Proofs.Template.WrittenBody

/-!
# Parsing undoes printing

The text that is printed for a word in normal form consists of lexemes that can be read off the
word, and joining these gives back one content for each part.  The bodies of its expansions are
written from the words below, so by induction over the tree parsing returns the printed word, with
every expansion carrying the text that was printed for it.
-/

namespace ParameterExpansion.Template

/-! ## The lexemes of a word -/

/-- The lexeme that a character of literal text is printed as. -/
def literalLexeme (c : Char) : Lexeme :=
  if c = '$' then .dollarPair else .plain c

def Part.lexemes : Part → List Lexeme
  | .literal text => text.map literalLexeme
  | .escaped text => text.map .escaped
  | .expansion name operation _ => [.expansion (writeBody name (printOperation operation))]

theorem Place.Allows.ne_backslash
    {place : Place} {c : Char}
    (allows : place.Allows c)
    (quotes : place.quotes = true) :
    c ≠ '\\' := by
  cases place with
  | top => cases quotes
  | inner => exact allows.1
  | pattern => exact allows.1

theorem lexes_doubleDollars_append
    {place : Place} {text rest : Text} {lexemes : List Lexeme}
    (allowed : ∀ c ∈ text, place.Allows c)
    (lexes : Lexes place.quotes rest lexemes) :
    Lexes place.quotes (doubleDollars text ++ rest) (text.map literalLexeme ++ lexemes) := by
  induction text with
  | nil => exact lexes
  | cons c text ih =>
      have others := ih fun other member => allowed other (List.mem_cons_of_mem c member)
      by_cases isDollar : c = '$'
      · subst isDollar
        exact Lexes.pair others
      · rw [doubleDollars_cons isDollar, List.map_cons, List.cons_append, List.cons_append,
          literalLexeme, if_neg isDollar]
        apply Lexes.plain _ _ others
        · intro mark
          exact isDollar mark.1
        · rintro ⟨quotes, isQuote, _⟩
          exact (allowed c List.mem_cons_self).ne_backslash quotes isQuote

theorem lexes_quoteEach_append
    {escapes : Bool} {text rest : Text} {lexemes : List Lexeme}
    (quotes : escapes = true)
    (lexes : Lexes escapes rest lexemes) :
    Lexes escapes (quoteEach text ++ rest) (text.map .escaped ++ lexemes) := by
  induction text with
  | nil => exact lexes
  | cons c text ih => exact Lexes.escaped quotes ih

/-- Printed text consists of the lexemes of the word if the bodies in it are balanced. -/
theorem lexes_printWord_of_balanced
    {place : Place} {word : List Part}
    (normal : NormalWord place word)
    (balanced : ∀ name operation raw, .expansion name operation raw ∈ word →
      Balanced (writeBody name (printOperation operation))) :
    Lexes place.quotes (printWord word) (word.flatMap Part.lexemes) := by
  induction word with
  | nil => exact Lexes.nil
  | cons part rest ih =>
      rcases normal with ⟨normalPart, _, normalRest⟩
      have others := ih normalRest fun name operation raw member =>
        balanced name operation raw (List.mem_cons_of_mem part member)
      rw [printWord, List.flatMap_cons]
      cases part with
      | literal text => exact lexes_doubleDollars_append normalPart.2 others
      | escaped text => exact lexes_quoteEach_append normalPart.1 others
      | expansion name operation raw =>
          have closed := balanced name operation raw List.mem_cons_self
          simpa [printPart, enclose, Part.lexemes] using Lexes.expansion closed others

theorem allows_of_mem_lexemes
    {place : Place} {part : Part} {c : Char}
    (normal : NormalPart place part)
    (member : .plain c ∈ part.lexemes) :
    place.Allows c := by
  cases part with
  | literal text =>
      rcases List.mem_map.mp member with ⟨other, isChar, same⟩
      rw [literalLexeme] at same
      split at same
      · cases same
      · cases same
        exact normal.2 c isChar
  | escaped text => simp [Part.lexemes] at member
  | expansion name operation raw => simp [Part.lexemes] at member

/-! ## Printed words in an operation -/

/-- A printed part is not empty, and starts as the part does or with a dollar or a backslash. -/
theorem exists_printPart_eq_cons
    {place : Place} {part : Part}
    (normal : NormalPart place part) :
    ∃ first rest, printPart part = first :: rest ∧
      (first = '$' ∨ first = '\\' ∨ part.startsWith first = true) := by
  cases part with
  | literal text =>
      cases text with
      | nil => exact (normal.1 rfl).elim
      | cons c text =>
          by_cases isDollar : c = '$'
          · subst isDollar
            exact ⟨'$', '$' :: doubleDollars text, rfl, Or.inl rfl⟩
          · exact ⟨c, doubleDollars text, doubleDollars_cons isDollar text,
              Or.inr (Or.inr (by simp [Part.startsWith]))⟩
  | escaped text =>
      rcases List.length_eq_one_iff.mp normal.2 with ⟨c, rfl⟩
      exact ⟨'\\', [c], rfl, Or.inr (Or.inl rfl)⟩
  | expansion name operation raw => exact ⟨'$', _, rfl, Or.inl rfl⟩

theorem printWord_eq_nil_iff
    {place : Place} {word : List Part}
    (normal : NormalWord place word) :
    printWord word = [] ↔ word = [] := by
  cases word with
  | nil => simp [printWord]
  | cons part rest =>
      rcases exists_printPart_eq_cons normal.1 with ⟨first, tail, printed, _⟩
      simp [printWord, printed]

theorem startsWith_of_printWord
    {place : Place} {word : List Part} {c : Char}
    (normal : NormalWord place word)
    (notDollar : c ≠ '$')
    (notQuote : c ≠ '\\')
    (starts : StartsWith isFirst c (printWord word)) :
    StartsWith Part.startsWith c word := by
  cases word with
  | nil => simp [printWord, StartsWith] at starts
  | cons part rest =>
      rcases exists_printPart_eq_cons normal.1 with ⟨first, tail, printed, begins⟩
      have same : first = c := by
        simpa [printWord, printed, StartsWith, isFirst] using starts
      subst same
      rcases begins with isDollar | isQuote | begins
      · exact (notDollar isDollar).elim
      · exact (notQuote isQuote).elim
      · simpa [StartsWith] using begins

/-- An operation is fragmented again when its words are printed. -/
theorem isFragmented_printOperation_of_holds
    {operation : Operation (List Part)}
    (distinct : operation.IsDistinct Part.startsWith)
    (normal : NormalOperation operation)
    (holds : ∀ word ∈ operation.words, ∀ place,
      NormalWord place word → place.Holds (printWord word)) :
    (printOperation operation).IsFragmented := by
  have each := (normalOperation_iff operation).mp normal
  have related := related_printOperation operation
  constructor
  · apply distinct.of_related related
    · rintro word text ⟨member, rfl⟩
      rcases each.exists_of_mem member with ⟨place, _, normalWord⟩
      exact printWord_eq_nil_iff normalWord
    · rintro c isSign word text ⟨member, rfl⟩ starts
      rcases each.exists_of_mem member with ⟨place, _, normalWord⟩
      have notMark : c ≠ '$' ∧ c ≠ '\\' := by
        rcases isSign with rfl | rfl
        · decide
        · decide
      exact startsWith_of_printWord normalWord notMark.1 notMark.2 starts
  · apply each.of_related related
    rintro place _ word text _ ⟨member, rfl⟩ normalWord
    exact holds word member place normalWord

theorem holds_of_lexes_printWord
    {place : Place} {word : List Part}
    (normal : NormalWord place word)
    (lexes : Lexes place.quotes (printWord word) (word.flatMap Part.lexemes)) :
    place.Holds (printWord word) := by
  refine ⟨_, lexes, ?_⟩
  intro c member
  rcases List.mem_flatMap.mp member with ⟨part, isPart, isLexeme⟩
  exact allows_of_mem_lexemes (((normalWord_iff place word).mp normal).1 part isPart) isLexeme

/-- Printed text consists of the lexemes of the word. -/
theorem lexes_printWord
    {place : Place} {word : List Part}
    (normal : NormalWord place word) :
    Lexes place.quotes (printWord word) (word.flatMap Part.lexemes) := by
  induction word using word_induction generalizing place with
  | step word ih =>
  -- Bodies are balanced because the words in them are printed as text that may stand there.
  apply lexes_printWord_of_balanced normal
  intro name operation raw member
  rcases ((normalWord_iff place word).mp normal).1 _ member with
    ⟨isName, distinct, normalOperation⟩
  have fragmented := isFragmented_printOperation_of_holds distinct normalOperation
    fun inner isInner other normalInner =>
      holds_of_lexes_printWord normalInner (ih name operation raw member inner isInner normalInner)
  exact balanced_writeBody isName fragmented.2

theorem isFragmented_printOperation
    {operation : Operation (List Part)}
    (distinct : operation.IsDistinct Part.startsWith)
    (normal : NormalOperation operation) :
    (printOperation operation).IsFragmented := by
  apply isFragmented_printOperation_of_holds distinct normal
  intro word _ place normalWord
  exact holds_of_lexes_printWord normalWord (lexes_printWord normalWord)

/-! ## Contents of printed words -/

theorem joinLexemes_literalLexeme
    (c : Char)
    (lexemes : List Lexeme) :
    joinLexemes (literalLexeme c :: lexemes) = joinChar c (joinLexemes lexemes) := by
  by_cases isDollar : c = '$'
  · subst isDollar
    rfl
  · rw [literalLexeme, if_neg isDollar, joinLexemes]

theorem joinChar_of_not_isLiteral
    {contents : List Content}
    (apart : ∀ content ∈ contents.head?, content.isLiteral = false)
    (c : Char) :
    joinChar c contents = .literal [c] :: contents := by
  rcases contents with _ | ⟨content, rest⟩
  · rfl
  · cases content with
    | literal text => cases apart _ rfl
    | escaped quoted => rfl
    | expansion body => rfl

/-- A literal run becomes one content if no other run follows it. -/
theorem joinLexemes_literal_append
    {text : Text} {lexemes : List Lexeme}
    (nonempty : text ≠ [])
    (apart : ∀ content ∈ (joinLexemes lexemes).head?, content.isLiteral = false) :
    joinLexemes (text.map literalLexeme ++ lexemes) = .literal text :: joinLexemes lexemes := by
  induction text with
  | nil => exact (nonempty rfl).elim
  | cons c text ih =>
      rw [List.map_cons, List.cons_append, joinLexemes_literalLexeme]
      cases text with
      | nil => exact joinChar_of_not_isLiteral apart c
      | cons next text =>
          rw [ih (List.cons_ne_nil next text)]
          rfl

/-- The word refreshed is parsed from its lexemes if its expansions are parsed from their bodies. -/
theorem parsesTo_refreshWord
    {limits : Limits} {depth : Int} {place : Place} {word : List Part}
    (normal : NormalWord place word)
    (bodies : ∀ name operation raw, .expansion name operation raw ∈ word →
      parseBody limits depth (writeBody name (printOperation operation)) =
        .ok (refreshPart (.expansion name operation raw))) :
    List.Forall₂ (ParsesTo limits depth) (joinLexemes (word.flatMap Part.lexemes))
      (refreshWord word) := by
  induction word with
  | nil => exact List.Forall₂.nil
  | cons part rest ih =>
      rcases normal with ⟨normalPart, apart, normalRest⟩
      have others := ih normalRest fun name operation raw member =>
        bodies name operation raw (List.mem_cons_of_mem part member)
      rw [List.flatMap_cons, refreshWord]
      cases part with
      | literal text =>
          have contentsApart :
              ∀ content ∈ (joinLexemes (rest.flatMap Part.lexemes)).head?,
                content.isLiteral = false := by
            have kinds := map_isLiteral_of_parsesTo others
            rw [map_isLiteral_refreshWord] at kinds
            have heads := congrArg List.head? kinds
            rw [List.head?_map, List.head?_map] at heads
            intro content first
            rw [first, Option.map_some, Option.map_eq_some_iff] at heads
            rcases heads with ⟨next, isNext, same⟩
            rw [← same]
            exact apart next isNext
          rw [Part.lexemes, joinLexemes_literal_append normalPart.1 contentsApart]
          exact List.Forall₂.cons (ParsesTo.literal text) others
      | escaped text =>
          rcases List.length_eq_one_iff.mp normalPart.2 with ⟨c, rfl⟩
          exact List.Forall₂.cons (ParsesTo.escaped c) others
      | expansion name operation raw =>
          have parsed := bodies name operation raw List.mem_cons_self
          exact List.Forall₂.cons (ParsesTo.expansion parsed) others

/-! ## The round trip -/

/-- Parsing a printed word returns the word refreshed, if it is not nested too deep. -/
theorem parseWord_printWord
    {limits : Limits} {place : Place} {depth : Int} {word : List Part}
    (normal : NormalWord place word)
    (shallow : depth + wordNesting word ≤ limits.nesting) :
    parseWord limits place.quotes depth (printWord word) = .ok (refreshWord word) := by
  induction word using word_induction generalizing place depth with
  | step word ih =>
  have allowed : depth ≤ limits.nesting := by omega
  refine parseWord_eq_ok_iff.mpr ⟨allowed, _, lexes_printWord normal, ?_⟩
  apply parsesTo_refreshWord normal
  intro name operation raw member
  rcases ((normalWord_iff place word).mp normal).1 _ member with
    ⟨isName, distinct, normalOperation⟩
  have read := readBody_writeBody isName (isFragmented_printOperation distinct normalOperation)
  refine parseBody_eq_ok_iff.mpr ⟨name, _, _, read, ?_, rfl⟩
  apply related_refreshOperation
  intro inner isInner
  -- Words of an operation are parsed one level deeper, and are nested less deep by one at least.
  have each := (normalOperation_iff operation).mp normalOperation
  rcases each.exists_of_mem isInner with ⟨stands, quotes, normalInner⟩
  have deeper := wordNesting_lt_of_mem member isInner
  rw [← quotes]
  exact ih name operation raw member inner isInner normalInner (by omega)

/--
A word in normal form is parsed back from what is printed for it, within the limits on nesting and
size.  Its expansions then carry their printed text, so a word that carries it already is returned
as it is.
-/
theorem parseText_printWord
    {limits : Limits} {word : List Part}
    (normal : NormalWord .top word)
    (shallow : wordNesting word ≤ limits.nesting)
    (short : (printWord word).length ≤ limits.size) :
    parseText limits (printWord word) = .ok (refreshWord word) ∧
      ((∀ part ∈ wordExpansions word, part.CarriesPrinted) →
        parseText limits (printWord word) = .ok word) := by
  have parsed : parseText limits (printWord word) = .ok (refreshWord word) := by
    rw [parseText, if_neg (Int.not_lt.mpr short)]
    exact parseWord_printWord normal (by omega)
  refine ⟨parsed, ?_⟩
  intro carries
  rw [parsed, refreshWord_eq_self carries]

theorem parseText_printWord_removal :
    parseText {} ('$' :: '$' :: enclose ('x' :: '%' :: '%' :: enclose ['y'])) =
      .ok [.literal ['$'],
        .expansion ['x'] (.remove .trailing true [.expansion ['y'] .value (enclose ['y'])])
          (enclose ('x' :: '%' :: '%' :: enclose ['y']))] := by
  have normal :
      NormalWord .top
        [.literal ['$'],
          .expansion ['x'] (.remove .trailing true [.expansion ['y'] .value (enclose ['y'])])
            (enclose ('x' :: '%' :: '%' :: enclose ['y']))] := by
    have names : IsName ['x'] ∧ IsName ['y'] := by decide
    simp [NormalWord, NormalPart, NormalOperation, Operation.IsDistinct, Place.Allows,
      Part.isLiteral, names]
  refine (parseText_printWord normal (by decide) (by decide)).2 ?_
  simp [wordExpansions, partExpansions, operationExpansions, Part.CarriesPrinted, printPart,
    printOperation, printWord, writeBody, writeOperation, sideSign]

end ParameterExpansion.Template
