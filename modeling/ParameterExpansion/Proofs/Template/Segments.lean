import ParameterExpansion.Proofs.Template.ClosingBrace
import ParameterExpansion.Proofs.Template.Concatenation
import ParameterExpansion.Proofs.Template.ParsedForm
import ParameterExpansion.Proofs.Text.Occurrence

/-!
# Segments and their sources

The source of a segment is the text from its position to the position of the next segment.  An
expansion and a quoted character are written in their sources with their marks around them, and a
literal run is its source with a dollar in place of each dollar pair.  The sources stand side by side
and make up the text, so scanning loses nothing and the positions are those of the text.  It fails if
reading arrives at an expansion that is never closed, and for no other reason.
-/

namespace ParameterExpansion.Template

/-! ## Literal runs -/

/-- In front of the rest, a backslash in the text has nothing behind it that it could quote. -/
def QuotesNothing (text rest : Text) : Prop :=
  ∀ front back, text = front ++ '\\' :: back → back ++ rest = []

theorem QuotesNothing.cons
    {text rest : Text} {c : Char}
    (quotesNothing : QuotesNothing text rest)
    (last : c = '\\' → text ++ rest = []) :
    QuotesNothing (c :: text) rest := by
  intro front back same
  cases front with
  | nil =>
      rcases List.cons.inj same with ⟨isQuote, rfl⟩
      exact last isQuote
  | cons first front =>
      rcases List.cons.inj same with ⟨_, same⟩
      exact quotesNothing front back same

/--
The run is read from the source in front of the rest.  Each dollar pair of the source is one dollar
of the run.  An opening brace follows a dollar only if that dollar is the second one of a pair, which
it is if the dollars directly in front of it are odd in number.  Where backslashes quote, one that is
in the run has nothing behind it.
-/
structure IsRunOf (escapes : Bool) (rest run source : Text) : Prop where
  replaced : run = source.replaceAll ['$', '$'] ['$']
  opensNot : ∀ front back, source = front ++ '$' :: '{' :: back → ¬ Even (closingDollars front)
  quotesNot : escapes = true → QuotesNothing source rest ∧ QuotesNothing run rest

namespace IsRunOf

variable {escapes : Bool} {rest run source : Text}

theorem nil
    (escapes : Bool)
    (rest : Text) :
    IsRunOf escapes rest [] [] := by
  constructor
  · exact (Text.replaceAll_nil (List.cons_ne_nil _ _) ['$']).symm
  · intro front back same
    simp at same
  · intro _
    constructor
    all_goals
      intro front back same
      simp at same

theorem pair (isRun : IsRunOf escapes rest run source) :
    IsRunOf escapes rest ('$' :: run) ('$' :: '$' :: source) := by
  have isDollar : '$' = '\\' → ∀ text : Text, text = [] := by
    intro same
    cases same
  constructor
  · rw [isRun.replaced]
    exact (Text.replaceAll_append (List.cons_ne_nil _ _) source ['$']).symm
  · intro front back same
    match front with
    | [] => simp at same
    | [first] =>
        obtain rfl : '$' = first := (List.cons.inj same).1
        decide
    | first :: second :: front =>
        simp only [List.cons_append, List.cons.injEq] at same
        obtain ⟨rfl, rfl, same⟩ := same
        rw [even_closingDollars_pair_iff]
        exact isRun.opensNot front back same
  · intro quotes
    rcases isRun.quotesNot quotes with ⟨sourceQuotes, runQuotes⟩
    refine ⟨?_, runQuotes.cons fun same => isDollar same _⟩
    exact (sourceQuotes.cons fun same => isDollar same _).cons fun same => isDollar same _

/-- A character that has no role in front of the source and the rest stays as it is. -/
theorem plain
    {c : Char}
    (isRun : IsRunOf escapes rest run source)
    (marksNot : ¬ IsMark c (source ++ rest))
    (quotesNot : ¬ IsQuote escapes c (source ++ rest)) :
    IsRunOf escapes rest (c :: run) (c :: source) := by
  have marksNot : ¬ IsMark c source :=
    fun mark => marksNot (mark.of_prefix (List.prefix_append source rest))
  constructor
  · have absent : ¬ ['$', '$'] <+: c :: source := by
      rintro ⟨back, same⟩
      rcases List.cons.inj same with ⟨rfl, rfl⟩
      exact marksNot ⟨rfl, '$', back, rfl, Or.inl rfl⟩
    rw [isRun.replaced, Text.replaceAll_cons (List.cons_ne_nil _ _) absent]
  · intro front back same
    cases front with
    | nil =>
        rcases List.cons.inj same with ⟨rfl, rfl⟩
        exact (marksNot ⟨rfl, '{', back, rfl, Or.inr rfl⟩).elim
    | cons first front =>
        rcases List.cons.inj same with ⟨rfl, rfl⟩
        have inside := isRun.opensNot front back rfl
        -- A dollar in front is no mark, so the dollars behind it do not reach up to it.
        have ends : c = '$' → ∃ other ∈ front, other ≠ '$' := by
          rintro rfl
          cases front with
          | nil => exact (marksNot ⟨rfl, '$', '{' :: back, rfl, Or.inl rfl⟩).elim
          | cons next front =>
              refine ⟨next, List.mem_cons_self, fun isDollar => ?_⟩
              exact marksNot ⟨rfl, next, front ++ '$' :: '{' :: back, rfl, Or.inl isDollar⟩
        by_cases isDollar : c = '$'
        · rwa [← List.singleton_append, closingDollars_append (ends isDollar)]
        · rwa [← List.nil_append (c :: front), closingDollars_append_cons isDollar]
  · intro quotes
    have last : c = '\\' → source ++ rest = [] := by
      intro isQuote
      by_contra nonempty
      exact quotesNot ⟨quotes, isQuote, nonempty⟩
    rcases isRun.quotesNot quotes with ⟨sourceQuotes, runQuotes⟩
    refine ⟨sourceQuotes.cons last, runQuotes.cons fun isQuote => ?_⟩
    rcases List.append_eq_nil_iff.mp (last isQuote) with ⟨rfl, rfl⟩
    rw [isRun.replaced, Text.replaceAll_nil (List.cons_ne_nil _ _), List.append_nil]

end IsRunOf

/-! ## Segments side by side -/

/-- The content is read from the source in front of the rest. -/
def Content.IsReadFrom (escapes : Bool) (rest source : Text) : Content → Prop
  | .literal run => run ≠ [] ∧ IsRunOf escapes rest run source
  | .escaped c => escapes = true ∧ source = ['\\', c]
  | .expansion body => Balanced body ∧ source = enclose body

theorem Content.IsReadFrom.source_ne_nil
    {escapes : Bool} {rest source : Text} {content : Content}
    (isRead : content.IsReadFrom escapes rest source) :
    source ≠ [] := by
  rintro rfl
  cases content with
  | literal run =>
      have empty := isRead.2.replaced
      rw [Text.replaceAll_nil (List.cons_ne_nil _ _)] at empty
      exact isRead.1 empty
  | escaped c => cases isRead.2
  | expansion body => cases isRead.2

/-- The text consists of the sources of the segments, the first of which starts at the position. -/
inductive Tiles (escapes : Bool) : Nat → Text → List Segment → Prop where
  | nil (position : Nat) : Tiles escapes position [] []
  | cons {position : Nat} {source rest : Text} {content : Content} {segments : List Segment}
      (isRead : content.IsReadFrom escapes rest source)
      (tiles : Tiles escapes (position + source.length) rest segments) :
      Tiles escapes position (source ++ rest) (⟨content, position⟩ :: segments)

/-- A lexeme that is joined to a literal run lengthens the source of that run. -/
theorem Tiles.prependLiteral
    {escapes : Bool} {position : Nat} {front rest : Text} {c : Char} {segments : List Segment}
    (tiles : Tiles escapes (position + front.length) rest segments)
    (extend : ∀ {run source after}, rest = source ++ after → IsRunOf escapes after run source →
      IsRunOf escapes after (c :: run) (front ++ source)) :
    Tiles escapes position (front ++ rest) (prependLiteral c position segments) := by
  have alone : (Content.literal [c]).IsReadFrom escapes rest front := by
    refine ⟨List.cons_ne_nil _ _, ?_⟩
    simpa using extend (List.nil_append rest).symm (IsRunOf.nil escapes rest)
  cases tiles with
  | nil => exact Tiles.cons alone (Tiles.nil _)
  | @cons _ source after content segments isRead tiles =>
      cases content with
      | literal run =>
          have longer : (Content.literal (c :: run)).IsReadFrom escapes after (front ++ source) :=
            ⟨List.cons_ne_nil _ _, extend rfl isRead.2⟩
          rw [← List.append_assoc]
          apply Tiles.cons longer
          rwa [List.length_append, ← Nat.add_assoc]
      | escaped c => exact Tiles.cons alone (Tiles.cons isRead tiles)
      | expansion body => exact Tiles.cons alone (Tiles.cons isRead tiles)

/-- The segments that lexemes make have the text of the lexemes as their sources. -/
theorem Lexes.tiles
    {escapes : Bool} {text : Text} {lexemes : List Lexeme}
    (lexes : Lexes escapes text lexemes)
    (position : Nat) :
    Tiles escapes position text (segmentsOf (locate position lexemes)) := by
  induction lexes generalizing position with
  | nil => exact Tiles.nil position
  | @pair rest lexemes lexes ih =>
      have tiles : Tiles escapes position (['$', '$'] ++ rest)
          (prependLiteral '$' position (segmentsOf (locate (position + 2) lexemes))) :=
        Tiles.prependLiteral (ih (position + 2)) fun _ isRun => isRun.pair
      exact tiles
  | @expansion body rest lexemes balanced lexes ih =>
      have isRead : (Content.expansion body).IsReadFrom escapes rest (enclose body) :=
        ⟨balanced, rfl⟩
      have tiles := Tiles.cons isRead (ih (position + (enclose body).length))
      rwa [enclose, List.append_assoc, List.singleton_append] at tiles
  | @escaped c rest lexemes quotes lexes ih =>
      have isRead : (Content.escaped c).IsReadFrom escapes rest ['\\', c] := ⟨quotes, rfl⟩
      exact Tiles.cons isRead (ih (position + 2))
  | @plain c rest lexemes marksNot quotesNot lexes ih =>
      have tiles : Tiles escapes position ([c] ++ rest)
          (prependLiteral c position (segmentsOf (locate (position + 1) lexemes))) := by
        apply Tiles.prependLiteral (ih (position + 1))
        rintro run source after rfl isRun
        exact isRun.plain marksNot quotesNot
      exact tiles

/-! ## Sources cut out of the text -/

/-- Where the source of a segment ends: where the next segment starts, or at the end of the text. -/
def sourceEnd (text : Text) (later : List Segment) : Nat :=
  (later.head?.map Segment.position).getD text.length

/-- The source of each segment, from its position to the next one. -/
def sources (text : Text) : List Segment → List Text
  | [] => []
  | segment :: later =>
      text.extract segment.position (sourceEnd text later) :: sources text later

/-- The segment is read from the source, which starts at its position in the text. -/
def Segment.IsReadFrom (escapes : Bool) (text : Text) (segment : Segment) (source : Text) : Prop :=
  match segment.content with
  | .literal run =>
      run ≠ [] ∧ IsRunOf escapes (text.drop (segment.position + source.length)) run source
  | .escaped c => escapes = true ∧ source = ['\\', c]
  | .expansion body =>
      source = enclose body ∧
        closingBrace? text (segment.position + 2) =
          some (segment.position + source.length - 1)

/-- What is read in front of a rest is read where that text stands. -/
theorem Content.IsReadFrom.of_append
    {escapes : Bool} {source rest : Text} {content : Content}
    (isRead : content.IsReadFrom escapes rest source)
    (passed : Text) :
    (Segment.mk content passed.length).IsReadFrom escapes (passed ++ (source ++ rest)) source := by
  cases content with
  | literal run =>
      rcases isRead with ⟨nonempty, isRun⟩
      refine ⟨nonempty, ?_⟩
      rwa [List.drop_length_add_append, List.drop_left]
  | escaped c => exact isRead
  | expansion body =>
      rcases isRead with ⟨balanced, rfl⟩
      exact ⟨rfl, balanced.closingBrace?_eq List.drop_left⟩

namespace Tiles

variable {escapes : Bool} {position : Nat} {text : Text} {segments : List Segment}

theorem eq_nil_iff (tiles : Tiles escapes position text segments) :
    segments = [] ↔ text = [] := by
  cases tiles with
  | nil => simp
  | cons isRead tiles => simp [isRead.source_ne_nil]

theorem position_eq
    (tiles : Tiles escapes position text segments)
    {first : Segment}
    (isFirst : first ∈ segments.head?) :
    first.position = position := by
  cases tiles with
  | nil => cases isFirst
  | cons isRead tiles =>
      cases isFirst
      rfl

/-- No segment starts before the position, and each starts behind those in front of it. -/
theorem pairwise_position (tiles : Tiles escapes position text segments) :
    (∀ other ∈ segments.map Segment.position, position ≤ other) ∧
      (segments.map Segment.position).Pairwise (· < ·) := by
  induction tiles with
  | nil => simp
  | @cons position source rest content segments isRead tiles ih =>
      rcases ih with ⟨behind, ordered⟩
      have nonempty : 0 < source.length := List.length_pos_iff.mpr isRead.source_ne_nil
      have later : ∀ other ∈ segments.map Segment.position, position < other := by
        intro other member
        have := behind other member
        omega
      rw [List.map_cons, List.forall_mem_cons, List.pairwise_cons]
      exact ⟨⟨Nat.le_refl _, fun other member => Nat.le_of_lt (later other member)⟩, later, ordered⟩

theorem sourceEnd_eq
    (tiles : Tiles escapes position text segments)
    {passed : Text}
    (size : passed.length = position) :
    sourceEnd (passed ++ text) segments = position := by
  cases tiles with
  | nil => simpa [sourceEnd] using size
  | cons isRead tiles => rfl

/-- Each segment is read from its source, and the sources make up the text behind what was passed. -/
theorem forall₂_sources
    (tiles : Tiles escapes position text segments)
    (passed : Text)
    (size : passed.length = position) :
    List.Forall₂ (Segment.IsReadFrom escapes (passed ++ text)) segments
        (sources (passed ++ text) segments) ∧
      (sources (passed ++ text) segments).flatten = text := by
  induction tiles generalizing passed with
  | nil => exact ⟨List.Forall₂.nil, rfl⟩
  | @cons position source rest content segments isRead tiles ih =>
      have sizeNext : (passed ++ source).length = position + source.length := by
        rw [List.length_append, size]
      have ends := tiles.sourceEnd_eq sizeNext
      rcases ih (passed ++ source) sizeNext with ⟨others, joined⟩
      subst size
      rw [List.append_assoc] at ends others joined
      have own : (passed ++ (source ++ rest)).extract passed.length
          (passed.length + source.length) = source := by
        rw [List.extract_eq_take_drop, List.drop_left, Nat.add_sub_cancel_left, List.take_left]
      rw [sources, ends, own]
      refine ⟨List.Forall₂.cons (isRead.of_append passed) others, ?_⟩
      rw [List.flatten_cons, joined]

end Tiles

/-! ## Expansions that are never closed -/

/--
Reading arrives at the position.  It starts in front of the text and passes a dollar pair, an
expansion up to the brace that closes it, a quoted character, or a character that is none of these.
-/
inductive IsReached (escapes : Bool) (text : Text) : Nat → Prop where
  | start : IsReached escapes text 0
  | pair {position : Nat} {rest : Text}
      (reached : IsReached escapes text position)
      (stands : text.drop position = '$' :: '$' :: rest) :
      IsReached escapes text (position + 2)
  | expansion {position close : Nat} {rest : Text}
      (reached : IsReached escapes text position)
      (stands : text.drop position = '$' :: '{' :: rest)
      (closed : closingBrace? text (position + 2) = some close) :
      IsReached escapes text (close + 1)
  | escaped {position : Nat} {c : Char} {rest : Text}
      (reached : IsReached escapes text position)
      (quotes : escapes = true)
      (stands : text.drop position = '\\' :: c :: rest) :
      IsReached escapes text (position + 2)
  | plain {position : Nat} {c : Char} {rest : Text}
      (reached : IsReached escapes text position)
      (stands : text.drop position = c :: rest)
      (marksNot : ¬ IsMark c rest)
      (quotesNot : ¬ IsQuote escapes c rest) :
      IsReached escapes text (position + 1)

theorem drop_add_of_drop_eq
    {text rest : Text} {position : Nat}
    (front : Text)
    (stands : text.drop position = front ++ rest) :
    text.drop (position + front.length) = rest := by
  rw [← List.drop_drop, stands, List.drop_left]

theorem closingBrace?_eq_none_iff
    {text rest : Text} {position : Nat}
    (stands : text.drop position = '$' :: '{' :: rest) :
    closingBrace? text (position + 2) = none ↔ closeBody? rest = none := by
  have behind : text.drop (position + 2) = rest :=
    drop_add_of_drop_eq ['$', '{'] stands
  rw [closingBrace?, behind, Option.map_eq_none_iff]

/-- Reading passes the lexemes of a text that stands where it has arrived. -/
theorem Lexes.isReached
    {escapes : Bool} {text front rest : Text} {lexemes : List Lexeme} {position : Nat}
    (lexes : Lexes escapes front lexemes)
    (leaves : LeavesLast escapes lexemes rest)
    (reached : IsReached escapes text position)
    (stands : text.drop position = front ++ rest) :
    IsReached escapes text (position + front.length) := by
  induction lexes generalizing position with
  | nil => exact reached
  | @pair tail lexemes lexes ih =>
      have behind : text.drop (position + 2) = tail ++ rest :=
        drop_add_of_drop_eq ['$', '$'] stands
      have passed := ih leaves.tail (reached.pair stands) behind
      rwa [Nat.add_assoc, Nat.add_comm 2] at passed
  | @expansion body tail lexemes balanced lexes ih =>
      have shape : '$' :: '{' :: body ++ '}' :: tail = enclose body ++ tail := by simp [enclose]
      rw [shape, List.append_assoc] at stands
      have size :
          position + (enclose body).length - 1 + 1 = position + (enclose body).length := by
        rw [length_enclose]
        omega
      have arrived := reached.expansion stands (balanced.closingBrace?_eq stands)
      rw [size] at arrived
      have passed := ih leaves.tail arrived (drop_add_of_drop_eq (enclose body) stands)
      rwa [Nat.add_assoc, ← List.length_append, ← shape] at passed
  | @escaped c tail lexemes quotes lexes ih =>
      have behind : text.drop (position + 2) = tail ++ rest :=
        drop_add_of_drop_eq ['\\', c] stands
      have passed := ih leaves.tail (reached.escaped quotes stands) behind
      rwa [Nat.add_assoc, Nat.add_comm 2] at passed
  | @plain c tail lexemes marksNot quotesNot lexes ih =>
      rcases leaves.stays_plain lexes marksNot quotesNot with ⟨staysPlain, staysBare⟩
      have behind : text.drop (position + 1) = tail ++ rest :=
        drop_add_of_drop_eq [c] stands
      have passed := ih leaves.tail (reached.plain stands staysPlain staysBare) behind
      rwa [Nat.add_assoc, Nat.add_comm 1] at passed

/-- One lexeme more is passed, and reading goes on behind it. -/
theorem exists_readLexemes_eq_of_lexeme
    {escapes : Bool} {text front rest : Text} {lexeme : Lexeme} {position : Nat}
    {done : List Located}
    (lexes : Lexes escapes front [lexeme])
    (leaves : LeavesLast escapes [lexeme] rest)
    (stands : text.drop position = front ++ rest)
    (same : readLexemes escapes 0 [] text =
      readLexemes escapes position done (text.drop position)) :
    ∃ done, readLexemes escapes 0 [] text =
      readLexemes escapes (position + front.length) done
        (text.drop (position + front.length)) := by
  rw [drop_add_of_drop_eq front stands]
  rw [stands, lexes.readLexemes_append leaves] at same
  exact ⟨_, same⟩

theorem leavesLast_of_ne_plain
    {lexeme : Lexeme}
    (notPlain : ∀ c, lexeme ≠ .plain c)
    (escapes : Bool)
    (text : Text) :
    LeavesLast escapes [lexeme] text := by
  intro c last
  exact (notPlain c (by simpa using last)).elim

/-- The lexemes of the text are those passed and those behind the position that is reached. -/
theorem IsReached.exists_readLexemes_eq
    {escapes : Bool} {text : Text} {position : Nat}
    (reached : IsReached escapes text position) :
    ∃ done, readLexemes escapes 0 [] text =
      readLexemes escapes position done (text.drop position) := by
  induction reached with
  | start => exact ⟨[], rfl⟩
  | @pair position rest reached stands ih =>
      rcases ih with ⟨done, same⟩
      have leaves : LeavesLast escapes [.dollarPair] rest :=
        leavesLast_of_ne_plain (by simp) escapes rest
      exact exists_readLexemes_eq_of_lexeme (Lexes.pair Lexes.nil) leaves stands same
  | @expansion position close rest reached stands closed ih =>
      rcases ih with ⟨done, same⟩
      rcases exists_enclose_of_closingBrace? stands closed with ⟨body, after, balanced, shape, size⟩
      have leaves : LeavesLast escapes [.expansion body] after :=
        leavesLast_of_ne_plain (by simp) escapes after
      rw [size]
      exact exists_readLexemes_eq_of_lexeme (Lexes.expansion balanced Lexes.nil) leaves shape same
  | @escaped position c rest reached quotes stands ih =>
      rcases ih with ⟨done, same⟩
      have leaves : LeavesLast escapes [.escaped c] rest :=
        leavesLast_of_ne_plain (by simp) escapes rest
      exact exists_readLexemes_eq_of_lexeme (Lexes.escaped quotes Lexes.nil) leaves stands same
  | @plain position c rest reached stands marksNot quotesNot ih =>
      rcases ih with ⟨done, same⟩
      have leaves : LeavesLast escapes [.plain c] rest := by
        intro other last
        obtain rfl : c = other := by simpa using last
        exact ⟨marksNot, quotesNot⟩
      have single : Lexes escapes [c] [.plain c] := by
        refine Lexes.plain (fun mark => marksNot (mark.of_prefix List.nil_prefix)) ?_ Lexes.nil
        exact fun quote => quote.2.2 rfl
      exact exists_readLexemes_eq_of_lexeme single leaves stands same

/-- Scanning fails where reading arrives at an expansion that is never closed. -/
theorem scan_eq_error_iff_isReached
    {escapes : Bool} {text : Text} {failure : Failure} :
    scan escapes text = .error failure ↔
      ∃ position rest, IsReached escapes text position ∧
        text.drop position = '$' :: '{' :: rest ∧
        closingBrace? text (position + 2) = none ∧
        failure = .unterminated (text.drop position) position := by
  constructor
  · intro failed
    rcases scan_eq_error_iff.mp failed with
      ⟨front, rest, rfl, ⟨unclosed, lexemes, lexes, leaves⟩, rfl⟩
    have stands : (front ++ '$' :: '{' :: rest).drop front.length = '$' :: '{' :: rest :=
      List.drop_left
    have reached := lexes.isReached leaves IsReached.start rfl
    rw [Nat.zero_add] at reached
    exact ⟨front.length, rest, reached, stands,
      (closingBrace?_eq_none_iff stands).mpr unclosed, by rw [stands]⟩
  · rintro ⟨position, rest, reached, stands, unclosed, rfl⟩
    rcases reached.exists_readLexemes_eq with ⟨done, same⟩
    have meets := MeetsUnclosed.nil ((closingBrace?_eq_none_iff stands).mp unclosed) escapes
    have failed := meets.readLexemes_eq position done
    rw [List.nil_append, List.length_nil, Nat.add_zero] at failed
    rw [scan, same, stands, failed]
    rfl

/-! ## Scanning -/

/--
If scanning succeeds, the sources of the segments make up the text, and each segment is read from its
source: an expansion from its body with the marks around it, a quoted character from a backslash and
that character, where backslashes quote, and a literal run from text in which each dollar pair stands
for a dollar.  The first segment starts where the text starts, the others start one behind the other,
there is none exactly if the text is empty, and no two literal runs are side by side.  Scanning fails
exactly if reading arrives at an expansion that is never closed, with the position of that expansion
and the text from there on.
-/
theorem scan_sources_or_unclosed
    (escapes : Bool)
    (text : Text) :
    (∀ segments, scan escapes text = .ok segments →
      (segments = [] ↔ text = []) ∧
      (∀ first ∈ segments.head?, first.position = 0) ∧
      (segments.map Segment.position).Pairwise (· < ·) ∧
      (sources text segments).flatten = text ∧
      List.Forall₂ (Segment.IsReadFrom escapes text) segments (sources text segments) ∧
      (segments.map fun segment => segment.content.isLiteral).IsChain
        fun left right => (left && right) = false) ∧
    ∀ failure, scan escapes text = .error failure ↔
      ∃ position rest, IsReached escapes text position ∧
        text.drop position = '$' :: '{' :: rest ∧
        closingBrace? text (position + 2) = none ∧
        failure = .unterminated (text.drop position) position := by
  refine ⟨?_, fun _ => scan_eq_error_iff_isReached⟩
  intro segments scanned
  rcases scan_eq_ok_iff.mp scanned with ⟨lexemes, lexes, rfl⟩
  have tiles := lexes.tiles 0
  rcases tiles.forall₂_sources [] rfl with ⟨readFrom, joined⟩
  refine ⟨tiles.eq_nil_iff, fun _ => tiles.position_eq, tiles.pairwise_position.2, joined,
    readFrom, ?_⟩
  have apart := isChain_joinLexemes lexemes
  rw [← map_lexeme_locate 0 lexemes, ← map_content_segmentsOf, List.map_map] at apart
  exact apart

/--
With quoting, a dollar that is the second of a pair may stand in front of an opening brace, and a
backslash at the end of the text; without it, an expansion is not closed behind a pair and a brace.
-/
theorem scan_sources_or_unclosed_behind_pair :
    let text := ['a', '$', '$', '{', '$', '\\', '}', '$', '{', 'b', '}', 'c', '\\']
    let segments : List Segment :=
      [⟨.literal ['a', '$', '{', '$'], 0⟩, ⟨.escaped '}', 5⟩, ⟨.expansion ['b'], 7⟩,
        ⟨.literal ['c', '\\'], 11⟩]
    scan true text = .ok segments ∧
      List.Forall₂ (Segment.IsReadFrom true text) segments
        [['a', '$', '$', '{', '$'], ['\\', '}'], enclose ['b'], ['c', '\\']] ∧
      scan false ['$', '$', '{', '$', '{', 'x'] = .error (.unterminated ['$', '{', 'x'] 3) := by
  intro text segments
  have scanned : scan true text = .ok segments := by
    cbv
  rcases (scan_sources_or_unclosed true text).1 segments scanned with ⟨_, _, _, _, readFrom, _⟩
  refine ⟨scanned, readFrom, ((scan_sources_or_unclosed false _).2 _).mpr ?_⟩
  have behindPair : IsReached false ['$', '$', '{', '$', '{', 'x'] 2 := IsReached.start.pair rfl
  have behindBrace : IsReached false ['$', '$', '{', '$', '{', 'x'] 3 :=
    behindPair.plain rfl (by simp [IsMark]) (by simp [IsQuote])
  exact ⟨3, ['x'], behindBrace, rfl, rfl, rfl⟩

end ParameterExpansion.Template
