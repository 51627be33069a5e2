import ParameterExpansion.Proofs.Template.Balance
import ParameterExpansion.Template.Segment

/-!
# Lexing as a relation

Reading lexemes keeps positions and the lexemes read before.  Here it is stated without either: a
relation says which lexemes a text consists of, one rule for each kind of lexeme, and reading
returns exactly the lexemes of that relation, each with the number of characters in front of it.
Segments are then joined from lexemes without regard to positions.  The text of a word inside an
expansion is balanced, which is the same as reading it, with quoting on, into lexemes among which
there is no bare backslash and no bare closing brace.
-/

namespace ParameterExpansion.Template

/-! ## The lexemes of a text -/

/-- A backslash that quotes the character behind it. -/
def IsQuote (escapes : Bool) (c : Char) (rest : Text) : Prop :=
  escapes = true ∧ c = '\\' ∧ rest ≠ []

/-- The text consists of the lexemes, in order. -/
inductive Lexes (escapes : Bool) : Text → List Lexeme → Prop where
  | nil : Lexes escapes [] []
  | pair {rest : Text} {lexemes : List Lexeme} (lexes : Lexes escapes rest lexemes) :
      Lexes escapes ('$' :: '$' :: rest) (.dollarPair :: lexemes)
  | expansion {body rest : Text} {lexemes : List Lexeme}
      (balanced : Balanced body) (lexes : Lexes escapes rest lexemes) :
      Lexes escapes ('$' :: '{' :: body ++ '}' :: rest) (.expansion body :: lexemes)
  | escaped {c : Char} {rest : Text} {lexemes : List Lexeme}
      (quotes : escapes = true) (lexes : Lexes escapes rest lexemes) :
      Lexes escapes ('\\' :: c :: rest) (.escaped c :: lexemes)
  | plain {c : Char} {rest : Text} {lexemes : List Lexeme}
      (marksNot : ¬ IsMark c rest) (quotesNot : ¬ IsQuote escapes c rest)
      (lexes : Lexes escapes rest lexemes) :
      Lexes escapes (c :: rest) (.plain c :: lexemes)

/-- The lexemes of a text make up the text. -/
theorem Lexes.spelling
    {escapes : Bool} {text : Text} {lexemes : List Lexeme}
    (lexes : Lexes escapes text lexemes) :
    lexemes.flatMap Lexeme.spelling = text := by
  induction lexes with
  | nil => rfl
  | pair lexes ih => simp [Lexeme.spelling, ih]
  | expansion balanced lexes ih => simp [Lexeme.spelling, ih]
  | escaped quotes lexes ih => simp [Lexeme.spelling, ih]
  | plain marksNot quotesNot lexes ih => simp [Lexeme.spelling, ih]

theorem Lexes.quotes_of_mem
    {escapes : Bool} {text : Text} {lexemes : List Lexeme} {c : Char}
    (lexes : Lexes escapes text lexemes)
    (member : .escaped c ∈ lexemes) :
    escapes = true := by
  induction lexes with
  | nil => simp at member
  | pair lexes ih => exact ih (by simpa using member)
  | expansion balanced lexes ih => exact ih (by simpa using member)
  | escaped quotes lexes ih => exact quotes
  | plain marksNot quotesNot lexes ih => exact ih (by simpa using member)

theorem Lexes.balanced_of_mem
    {escapes : Bool} {text body : Text} {lexemes : List Lexeme}
    (lexes : Lexes escapes text lexemes)
    (member : .expansion body ∈ lexemes) :
    Balanced body := by
  induction lexes with
  | nil => simp at member
  | pair lexes ih => exact ih (by simpa using member)
  | expansion balanced lexes ih =>
      rcases List.mem_cons.mp member with same | member
      · cases same
        exact balanced
      · exact ih member
  | escaped quotes lexes ih => exact ih (by simpa using member)
  | plain marksNot quotesNot lexes ih => exact ih (by simpa using member)

/-! ## Texts one behind the other -/

theorem isMark_append_iff
    {front : Text}
    (nonempty : front ≠ [])
    (c : Char)
    (rest : Text) :
    IsMark c (front ++ rest) ↔ IsMark c front := by
  constructor
  · rintro ⟨isDollar, next, tail, joined, isNext⟩
    cases front with
    | nil => exact (nonempty rfl).elim
    | cons first front =>
        rcases List.cons.inj joined with ⟨rfl, _⟩
        exact ⟨isDollar, first, front, rfl, isNext⟩
  · intro mark
    exact mark.of_prefix (List.prefix_append front rest)

/--
Text behind lexemes leaves the last of them as it is: a dollar does not become part of a pair or an
expansion, and a backslash does not become a quote.
-/
def LeavesLast (escapes : Bool) (lexemes : List Lexeme) (text : Text) : Prop :=
  ∀ c, lexemes.getLast? = some (.plain c) → ¬ IsMark c text ∧ ¬ IsQuote escapes c text

theorem LeavesLast.tail
    {escapes : Bool} {lexeme : Lexeme} {lexemes : List Lexeme} {text : Text}
    (leaves : LeavesLast escapes (lexeme :: lexemes) text) :
    LeavesLast escapes lexemes text := by
  intro c last
  apply leaves c
  rw [List.getLast?_cons, last]
  rfl

/-- A character that is a lexeme of its own stays one in front of more text that leaves it so. -/
theorem LeavesLast.stays_plain
    {escapes : Bool} {c : Char} {tail text : Text} {lexemes : List Lexeme}
    (leaves : LeavesLast escapes (.plain c :: lexemes) text)
    (lexes : Lexes escapes tail lexemes)
    (marksNot : ¬ IsMark c tail)
    (quotesNot : ¬ IsQuote escapes c tail) :
    ¬ IsMark c (tail ++ text) ∧ ¬ IsQuote escapes c (tail ++ text) := by
  cases tail with
  | nil =>
      cases lexes
      exact leaves c rfl
  | cons next tail =>
      have nonempty : next :: tail ≠ [] := by simp
      constructor
      · rwa [isMark_append_iff nonempty]
      · rintro ⟨quotes, isQuote, _⟩
        exact quotesNot ⟨quotes, isQuote, nonempty⟩

/-- The lexemes of two texts, one behind the other, are those of the one and of the other. -/
theorem Lexes.append
    {escapes : Bool} {front rest : Text} {before after : List Lexeme}
    (frontLexes : Lexes escapes front before)
    (restLexes : Lexes escapes rest after)
    (leaves : LeavesLast escapes before rest) :
    Lexes escapes (front ++ rest) (before ++ after) := by
  induction frontLexes with
  | nil => exact restLexes
  | pair lexes ih => exact Lexes.pair (ih leaves.tail)
  | expansion balanced lexes ih => simpa using Lexes.expansion balanced (ih leaves.tail)
  | escaped quotes lexes ih => exact Lexes.escaped quotes (ih leaves.tail)
  | plain marksNot quotesNot lexes ih =>
      rcases leaves.stays_plain lexes marksNot quotesNot with ⟨staysPlain, staysBare⟩
      exact Lexes.plain staysPlain staysBare (ih leaves.tail)

/-! ## Reading -/

/-- Lexemes with the positions at which they start. -/
def locate (position : Nat) : List Lexeme → List Located
  | [] => []
  | lexeme :: rest =>
      ⟨position, lexeme⟩ :: locate (position + lexeme.spelling.length) rest

@[simp]
theorem map_lexeme_locate (position : Nat) (lexemes : List Lexeme) :
    (locate position lexemes).map Located.lexeme = lexemes := by
  induction lexemes generalizing position with
  | nil => rfl
  | cons lexeme rest ih => simp [locate, ih]

theorem readLexemes_plain
    {escapes : Bool} {c : Char} {rest : Text}
    (marksNot : ¬ IsMark c rest)
    (quotesNot : ¬ IsQuote escapes c rest)
    (position : Nat)
    (done : List Located) :
    readLexemes escapes position done (c :: rest) =
      readLexemes escapes (position + 1) (⟨position, .plain c⟩ :: done) rest := by
  rw [readLexemes.eq_def]
  split
  · rename_i same
    simp at same
  · rename_i tail same
    rcases List.cons.inj same with ⟨rfl, rfl⟩
    exact (marksNot ⟨rfl, '$', tail, rfl, Or.inl rfl⟩).elim
  · rename_i tail same
    rcases List.cons.inj same with ⟨rfl, rfl⟩
    exact (marksNot ⟨rfl, '{', tail, rfl, Or.inr rfl⟩).elim
  · rename_i next tail same
    rcases List.cons.inj same with ⟨rfl, rfl⟩
    have literal : ¬ escapes = true := fun quotes => quotesNot ⟨quotes, rfl, by simp⟩
    rw [if_neg literal]
  · rename_i first tail _ _ _ same
    rcases List.cons.inj same with ⟨rfl, rfl⟩
    rfl

/-- Reading passes the lexemes of a text and goes on behind it, whatever is found there. -/
theorem Lexes.readLexemes_append
    {escapes : Bool} {front rest : Text} {lexemes : List Lexeme}
    (lexes : Lexes escapes front lexemes)
    (leaves : LeavesLast escapes lexemes rest)
    (position : Nat)
    (done : List Located) :
    readLexemes escapes position done (front ++ rest) =
      readLexemes escapes (position + front.length)
        ((locate position lexemes).reverse ++ done) rest := by
  induction lexes generalizing position done with
  | nil => simp [locate]
  | pair lexes ih =>
      rw [List.cons_append, List.cons_append, readLexemes, ih leaves.tail]
      simp [locate, Lexeme.spelling, Nat.add_comm, Nat.add_left_comm]
  | @expansion body tail lexemes balanced lexes ih =>
      have closed : closeBody? (body ++ '}' :: (tail ++ rest)) = some (body, tail ++ rest) :=
        closeBody?_eq_some_iff.mpr ⟨balanced, rfl⟩
      simp only [List.cons_append, List.append_assoc]
      rw [readLexemes]
      split
      · rename_i unclosed
        rw [closed] at unclosed
        simp at unclosed
      · rename_i found after isClosed
        rw [closed] at isClosed
        obtain ⟨rfl, rfl⟩ : body = found ∧ tail ++ rest = after := by
          simpa using isClosed
        rw [ih leaves.tail]
        simp [locate, Lexeme.spelling, Nat.add_assoc, Nat.add_comm, Nat.add_left_comm]
  | escaped quotes lexes ih =>
      rw [List.cons_append, List.cons_append, readLexemes, if_pos quotes, ih leaves.tail]
      simp [locate, Lexeme.spelling, Nat.add_comm, Nat.add_left_comm]
  | plain marksNot quotesNot lexes ih =>
      rcases leaves.stays_plain lexes marksNot quotesNot with ⟨staysPlain, staysBare⟩
      rw [List.cons_append, readLexemes_plain staysPlain staysBare, ih leaves.tail]
      simp [locate, Lexeme.spelling, Nat.add_comm, Nat.add_left_comm]

theorem leavesLast_nil (escapes : Bool) (lexemes : List Lexeme) :
    LeavesLast escapes lexemes [] := by
  intro c _
  constructor
  · rintro ⟨_, next, tail, same, _⟩
    cases same
  · rintro ⟨_, _, nonempty⟩
    exact nonempty rfl

/-- Reading returns the lexemes of the text behind those read before. -/
theorem Lexes.readLexemes_eq
    {escapes : Bool} {text : Text} {lexemes : List Lexeme}
    (lexes : Lexes escapes text lexemes)
    (position : Nat)
    (done : List Located) :
    readLexemes escapes position done text =
      .ok (done.reverse ++ locate position lexemes) := by
  have read := lexes.readLexemes_append (leavesLast_nil escapes lexemes) position done
  simpa [readLexemes] using read

/-- A character that begins neither a pair nor an expansion nor a quote is no mark and no quote. -/
theorem not_isMark_and_not_isQuote
    {escapes : Bool} {c : Char} {rest : Text}
    (notPair : ∀ tail, c = '$' → rest = '$' :: tail → False)
    (notOpening : ∀ tail, c = '$' → rest = '{' :: tail → False)
    (notQuote : ∀ next tail, c = '\\' → rest = next :: tail → False) :
    ¬ IsMark c rest ∧ ¬ IsQuote escapes c rest := by
  constructor
  · rintro ⟨rfl, next, tail, rfl, rfl | rfl⟩
    · exact notPair tail rfl rfl
    · exact notOpening tail rfl rfl
  · rintro ⟨_, rfl, nonempty⟩
    cases rest with
    | nil => exact nonempty rfl
    | cons next tail => exact notQuote next tail rfl rfl

/-- Where backslashes do not quote, a backslash is no mark and no quote. -/
theorem backslash_not_isMark_and_not_isQuote
    {escapes : Bool}
    (literal : ¬ escapes = true)
    (rest : Text) :
    ¬ IsMark '\\' rest ∧ ¬ IsQuote escapes '\\' rest := by
  constructor
  · rintro ⟨isDollar, _⟩
    simp at isDollar
  · rintro ⟨quotes, _⟩
    exact literal quotes

theorem exists_lexes_of_readLexemes
    {escapes : Bool} {position : Nat} {done located : List Located} {text : Text}
    (read : readLexemes escapes position done text = .ok located) :
    ∃ lexemes, Lexes escapes text lexemes := by
  fun_induction readLexemes escapes position done text with
  | case1 => exact ⟨[], Lexes.nil⟩
  | case2 position done rest ih =>
      rcases ih read with ⟨lexemes, lexes⟩
      exact ⟨_, Lexes.pair lexes⟩
  | case3 => simp at read
  | case4 position done rest body after closed bound ih =>
      rcases ih read with ⟨lexemes, lexes⟩
      obtain ⟨balanced, rfl⟩ := closeBody?_eq_some_iff.mp closed
      exact ⟨_, Lexes.expansion balanced lexes⟩
  | case5 position done c rest quotes ih =>
      rcases ih read with ⟨lexemes, lexes⟩
      exact ⟨_, Lexes.escaped quotes lexes⟩
  | case6 position done c rest literal ih =>
      rcases ih read with ⟨lexemes, lexes⟩
      have bare := backslash_not_isMark_and_not_isQuote literal (c :: rest)
      exact ⟨_, Lexes.plain bare.1 bare.2 lexes⟩
  | case7 position done c rest notPair notOpening notQuote ih =>
      rcases ih read with ⟨lexemes, lexes⟩
      have bare := @not_isMark_and_not_isQuote escapes c rest notPair notOpening notQuote
      exact ⟨_, Lexes.plain bare.1 bare.2 lexes⟩

/-! ## Expansions that are never closed -/

/-- Behind lexemes, reading meets an expansion that the text never closes. -/
def MeetsUnclosed (escapes : Bool) (front rest : Text) : Prop :=
  closeBody? rest = none ∧
    ∃ lexemes, Lexes escapes front lexemes ∧ LeavesLast escapes lexemes ('$' :: '{' :: rest)

namespace MeetsUnclosed

theorem nil
    {rest : Text}
    (unclosed : closeBody? rest = none)
    (escapes : Bool) :
    MeetsUnclosed escapes [] rest := by
  refine ⟨unclosed, [], Lexes.nil, ?_⟩
  intro c last
  simp at last

/-- A lexeme in front that is no single character is not changed by what is behind it. -/
theorem cons_of_lexeme
    {escapes : Bool} {front longer rest : Text} {lexeme : Lexeme}
    (meets : MeetsUnclosed escapes front rest)
    (lexes : ∀ lexemes, Lexes escapes front lexemes → Lexes escapes longer (lexeme :: lexemes))
    (notPlain : ∀ c, lexeme ≠ .plain c) :
    MeetsUnclosed escapes longer rest := by
  rcases meets with ⟨unclosed, lexemes, frontLexes, leaves⟩
  refine ⟨unclosed, lexeme :: lexemes, lexes lexemes frontLexes, ?_⟩
  intro c last
  cases lexemes with
  | nil => exact (notPlain c (by simpa using last)).elim
  | cons next lexemes => exact leaves c (by simpa [List.getLast?_cons_cons] using last)

theorem cons_of_plain
    {escapes : Bool} {c : Char} {front rest : Text}
    (meets : MeetsUnclosed escapes front rest)
    (bare : ¬ IsMark c (front ++ '$' :: '{' :: rest) ∧
      ¬ IsQuote escapes c (front ++ '$' :: '{' :: rest)) :
    MeetsUnclosed escapes (c :: front) rest := by
  rcases meets with ⟨unclosed, lexemes, lexes, leaves⟩
  have marksNot : ¬ IsMark c front :=
    fun mark => bare.1 (mark.of_prefix (List.prefix_append front _))
  have quotesNot : ¬ IsQuote escapes c front :=
    fun quote => bare.2 ⟨quote.1, quote.2.1, by simp⟩
  refine ⟨unclosed, .plain c :: lexemes, Lexes.plain marksNot quotesNot lexes, ?_⟩
  intro other last
  cases lexes with
  | nil =>
      obtain rfl : c = other := by simpa using last
      exact bare
  | _ => exact leaves other (by simpa [List.getLast?_cons_cons] using last)

/-- Reading fails there, with what is left of the text and the position at which it starts. -/
theorem readLexemes_eq
    {escapes : Bool} {front rest : Text}
    (meets : MeetsUnclosed escapes front rest)
    (position : Nat)
    (done : List Located) :
    readLexemes escapes position done (front ++ '$' :: '{' :: rest) =
      .error (.unterminated ('$' :: '{' :: rest) (position + front.length : Nat)) := by
  rcases meets with ⟨unclosed, lexemes, lexes, leaves⟩
  rw [lexes.readLexemes_append leaves, readLexemes]
  split
  · rfl
  · rename_i found after isClosed
    rw [unclosed] at isClosed
    cases isClosed

end MeetsUnclosed

/-- Reading fails at an expansion that is never closed, and for no other reason. -/
theorem exists_meetsUnclosed_of_readLexemes
    {escapes : Bool} {position : Nat} {done : List Located} {text : Text} {failure : Failure}
    (failed : readLexemes escapes position done text = .error failure) :
    ∃ front rest, text = front ++ '$' :: '{' :: rest ∧ MeetsUnclosed escapes front rest := by
  fun_induction readLexemes escapes position done text with
  | case1 => cases failed
  | case2 position done text ih =>
      rcases ih failed with ⟨front, rest, rfl, meets⟩
      refine ⟨'$' :: '$' :: front, rest, rfl, ?_⟩
      exact meets.cons_of_lexeme (fun _ lexes => Lexes.pair lexes) (by simp)
  | case3 position done rest unclosed =>
      exact ⟨[], rest, rfl, MeetsUnclosed.nil unclosed escapes⟩
  | case4 position done text body after closed bound ih =>
      rcases ih failed with ⟨front, rest, rfl, meets⟩
      obtain ⟨balanced, rfl⟩ := closeBody?_eq_some_iff.mp closed
      refine ⟨'$' :: '{' :: body ++ '}' :: front, rest, by simp, ?_⟩
      exact meets.cons_of_lexeme (fun _ lexes => Lexes.expansion balanced lexes) (by simp)
  | case5 position done c text quotes ih =>
      rcases ih failed with ⟨front, rest, rfl, meets⟩
      refine ⟨'\\' :: c :: front, rest, rfl, ?_⟩
      exact meets.cons_of_lexeme (fun _ lexes => Lexes.escaped quotes lexes) (by simp)
  | case6 position done c text literal ih =>
      rcases ih failed with ⟨front, rest, same, meets⟩
      refine ⟨'\\' :: front, rest, by rw [same, List.cons_append], meets.cons_of_plain ?_⟩
      exact backslash_not_isMark_and_not_isQuote literal _
  | case7 position done c text notPair notOpening notQuote ih =>
      rcases ih failed with ⟨front, rest, rfl, meets⟩
      refine ⟨c :: front, rest, rfl, meets.cons_of_plain ?_⟩
      exact not_isMark_and_not_isQuote notPair notOpening notQuote

/-- A text consists of at most one list of lexemes. -/
theorem Lexes.unique
    {escapes : Bool} {text : Text} {left right : List Lexeme}
    (leftLexes : Lexes escapes text left)
    (rightLexes : Lexes escapes text right) :
    left = right := by
  have leftRead := leftLexes.readLexemes_eq 0 []
  have rightRead := rightLexes.readLexemes_eq 0 []
  have same : locate 0 left = locate 0 right := by
    simpa [leftRead] using rightRead
  simpa using congrArg (List.map Located.lexeme) same

/-- Balanced text is read into lexemes without a bare backslash or closing brace. -/
theorem balanced_iff_lexes
    {text : Text} :
    Balanced text ↔
      ∃ lexemes, Lexes true text lexemes ∧
        ∀ c, .plain c ∈ lexemes → c ≠ '\\' ∧ c ≠ '}' := by
  constructor
  · intro balanced
    induction balanced with
    | nil => exact ⟨[], Lexes.nil, by simp⟩
    | escaped c balanced ih =>
        rcases ih with ⟨lexemes, lexes, clean⟩
        exact ⟨_, Lexes.escaped rfl lexes, by simpa using clean⟩
    | pair balanced ih =>
        rcases ih with ⟨lexemes, lexes, clean⟩
        exact ⟨_, Lexes.pair lexes, by simpa using clean⟩
    | expansion closed balanced innerIH ih =>
        rcases ih with ⟨lexemes, lexes, clean⟩
        exact ⟨_, Lexes.expansion closed lexes, by simpa using clean⟩
    | plain quotesNot closesNot marksNot balanced ih =>
        rcases ih with ⟨lexemes, lexes, clean⟩
        refine ⟨_, Lexes.plain marksNot (fun quote => quotesNot quote.2.1) lexes, ?_⟩
        intro other member
        rcases List.mem_cons.mp member with same | member
        · obtain rfl : other = _ := by simpa using same
          exact ⟨quotesNot, closesNot⟩
        · exact clean other member
  · rintro ⟨lexemes, lexes, clean⟩
    induction lexes with
    | nil => exact Balanced.nil
    | pair lexes ih => exact Balanced.pair (ih fun c member => clean c (by simp [member]))
    | expansion balanced lexes ih =>
        exact Balanced.expansion balanced (ih fun c member => clean c (by simp [member]))
    | escaped quotes lexes ih =>
        exact Balanced.escaped _ (ih fun c member => clean c (by simp [member]))
    | @plain c rest lexemes marksNot quotesNot lexes ih =>
        have bare := clean c List.mem_cons_self
        apply Balanced.plain bare.1 bare.2 marksNot
        exact ih fun other member => clean other (List.mem_cons_of_mem _ member)

/-! ## Contents of segments -/

/-- Put a literal character in front of contents, joining it to a literal run that comes first. -/
def joinChar (c : Char) : List Content → List Content
  | .literal text :: rest => .literal (c :: text) :: rest
  | contents => .literal [c] :: contents

/-- The contents of the segments that lexemes make. -/
def joinLexemes : List Lexeme → List Content
  | [] => []
  | .plain c :: rest => joinChar c (joinLexemes rest)
  | .dollarPair :: rest => joinChar '$' (joinLexemes rest)
  | .escaped c :: rest => .escaped c :: joinLexemes rest
  | .expansion body :: rest => .expansion body :: joinLexemes rest

theorem map_content_prependLiteral
    (c : Char)
    (position : Nat)
    (segments : List Segment) :
    (prependLiteral c position segments).map Segment.content =
      joinChar c (segments.map Segment.content) := by
  rcases segments with _ | ⟨⟨content, place⟩, rest⟩
  · rfl
  · cases content <;> rfl

theorem map_content_segmentsOf (located : List Located) :
    (segmentsOf located).map Segment.content =
      joinLexemes (located.map Located.lexeme) := by
  induction located with
  | nil => rfl
  | cons first rest ih =>
      rcases first with ⟨position, lexeme⟩
      rw [segmentsOf, List.foldr_cons, ← segmentsOf]
      cases lexeme with
      | plain c =>
          rw [Located.prepend, map_content_prependLiteral, ih]
          rfl
      | dollarPair =>
          rw [Located.prepend, map_content_prependLiteral, ih]
          rfl
      | escaped c =>
          rw [Located.prepend, List.map_cons, ih]
          rfl
      | expansion body =>
          rw [Located.prepend, List.map_cons, ih]
          rfl

/-- Scanning succeeds on a text that consists of lexemes, and joins them. -/
theorem scan_eq_ok_iff
    {escapes : Bool} {text : Text} {segments : List Segment} :
    scan escapes text = .ok segments ↔
      ∃ lexemes, Lexes escapes text lexemes ∧ segmentsOf (locate 0 lexemes) = segments := by
  constructor
  · intro scanned
    rw [scan] at scanned
    cases read : readLexemes escapes 0 [] text with
    | error failure => simp [read, Except.map] at scanned
    | ok located =>
        rcases exists_lexes_of_readLexemes read with ⟨lexemes, lexes⟩
        rw [lexes.readLexemes_eq] at scanned
        exact ⟨lexemes, lexes, by simpa [Except.map] using scanned⟩
  · rintro ⟨lexemes, lexes, rfl⟩
    rw [scan, lexes.readLexemes_eq]
    rfl

/-- Scanning fails on a text in which reading meets an expansion that is never closed. -/
theorem scan_eq_error_iff
    {escapes : Bool} {text : Text} {failure : Failure} :
    scan escapes text = .error failure ↔
      ∃ front rest, text = front ++ '$' :: '{' :: rest ∧ MeetsUnclosed escapes front rest ∧
        failure = .unterminated ('$' :: '{' :: rest) front.length := by
  constructor
  · intro failed
    rw [scan] at failed
    cases read : readLexemes escapes 0 [] text with
    | ok located => simp [read, Except.map] at failed
    | error other =>
        rcases exists_meetsUnclosed_of_readLexemes read with ⟨front, rest, rfl, meets⟩
        rw [meets.readLexemes_eq] at failed
        refine ⟨front, rest, rfl, meets, ?_⟩
        simpa [Except.map, eq_comm] using failed
  · rintro ⟨front, rest, rfl, meets, rfl⟩
    rw [scan, meets.readLexemes_eq]
    simp [Except.map]

end ParameterExpansion.Template
