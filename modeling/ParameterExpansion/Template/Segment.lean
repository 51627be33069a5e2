import ParameterExpansion.Failure
import ParameterExpansion.Template.Brace

/-!
# Segments

Text is read into lexemes from left to right: a dollar pair, which stands for one dollar, an
expansion from `$` and an opening brace to the brace that closes it, a quoted character where
backslashes quote, and any other character.  Runs of characters and dollar pairs are then joined, so
that text becomes a list of segments: literal runs, quoted characters and expansion bodies, each
with the position at which it starts.  An expansion that is never closed is a failure at its
position.
-/

namespace ParameterExpansion.Template

/-- The smallest parts of text. -/
inductive Lexeme where
  | plain (c : Char)
  | dollarPair
  | escaped (c : Char)
  | expansion (body : Text)
  deriving DecidableEq, Repr

/-- A lexeme as it stands in text. -/
def Lexeme.spelling : Lexeme → Text
  | .plain c => [c]
  | .dollarPair => ['$', '$']
  | .escaped c => ['\\', c]
  | .expansion body => '$' :: '{' :: body ++ ['}']

/-- A lexeme and the position at which it starts. -/
structure Located where
  position : Nat
  lexeme : Lexeme
  deriving DecidableEq, Repr

/--
Read lexemes.  `position` counts the characters before the text and `done` holds the lexemes read,
the last first.
-/
def readLexemes (escapes : Bool) (position : Nat) (done : List Located) (text : Text) :
    Except Failure (List Located) :=
  match text with
  | [] => .ok done.reverse
  | '$' :: '$' :: rest =>
    readLexemes escapes (position + 2) (⟨position, .dollarPair⟩ :: done) rest
  | '$' :: '{' :: rest =>
    match closed : closeBody? rest with
    | none => .error (.unterminated ('$' :: '{' :: rest) position)
    | some (body, after) =>
      have := length_of_closeBody? closed
      readLexemes escapes (position + body.length + 3)
        (⟨position, .expansion body⟩ :: done) after
  | '\\' :: c :: rest =>
    if escapes then readLexemes escapes (position + 2) (⟨position, .escaped c⟩ :: done) rest
    else readLexemes escapes (position + 1) (⟨position, .plain '\\'⟩ :: done) (c :: rest)
  | c :: rest => readLexemes escapes (position + 1) (⟨position, .plain c⟩ :: done) rest
termination_by text.length

/-- The body of every expansion among the lexemes of a text is shorter than the text by three. -/
theorem length_of_mem_readLexemes
    {escapes : Bool} {position : Nat} {done lexemes : List Located} {text body : Text} {place : Nat}
    (read : readLexemes escapes position done text = .ok lexemes)
    (member : ⟨place, .expansion body⟩ ∈ lexemes) :
    ⟨place, .expansion body⟩ ∈ done ∨ body.length + 3 ≤ text.length := by
  fun_induction readLexemes escapes position done text with
  | case1 =>
    obtain rfl : _ = lexemes := by simpa using read
    exact .inl (List.mem_reverse.mp member)
  | case2 _ _ _ ih =>
    rcases ih read with before | inside
    · exact .inl (by simpa using before)
    · exact .inr (by simp only [List.length_cons]; omega)
  | case3 => simp at read
  | case4 _ _ rest inner after closed bound ih =>
    rcases ih read with before | inside
    · rcases List.mem_cons.mp before with same | before
      · obtain ⟨_, rfl⟩ : _ ∧ body = inner := by simpa using same
        exact .inr (by simp only [List.length_cons]; omega)
      · exact .inl before
    · exact .inr (by simp only [List.length_cons]; omega)
  | case5 _ _ _ _ _ ih =>
    rcases ih read with before | inside
    · exact .inl (by simpa using before)
    · exact .inr (by simp only [List.length_cons]; omega)
  | case6 _ _ _ _ _ ih =>
    rcases ih read with before | inside
    · exact .inl (by simpa using before)
    · exact .inr (by simp only [List.length_cons] at *; omega)
  | case7 =>
    rename_i ih
    rcases ih read with before | inside
    · exact .inl (by simpa using before)
    · exact .inr (by simp only [List.length_cons]; omega)

/-- What a segment holds: a literal run, a quoted character, or the body of an expansion. -/
inductive Content where
  | literal (text : Text)
  | escaped (c : Char)
  | expansion (body : Text)
  deriving DecidableEq, Repr

/-- A piece of text between others, and the position at which it starts. -/
structure Segment where
  content : Content
  position : Nat
  deriving DecidableEq, Repr

/-- Put a literal character in front of segments, joining it to a literal run that comes first. -/
def prependLiteral (c : Char) (position : Nat) : List Segment → List Segment
  | ⟨.literal text, _⟩ :: rest => ⟨.literal (c :: text), position⟩ :: rest
  | segments => ⟨.literal [c], position⟩ :: segments

/-- Put a lexeme in front of segments. -/
def Located.prepend (located : Located) (segments : List Segment) : List Segment :=
  match located.lexeme with
  | .plain c => prependLiteral c located.position segments
  | .dollarPair => prependLiteral '$' located.position segments
  | .escaped c => ⟨.escaped c, located.position⟩ :: segments
  | .expansion body => ⟨.expansion body, located.position⟩ :: segments

/-- The segments that lexemes make. -/
def segmentsOf (lexemes : List Located) : List Segment :=
  lexemes.foldr Located.prepend []

/-- Joining literal runs makes no expansion. -/
theorem mem_of_mem_prependLiteral
    {c : Char} {position place : Nat} {segments : List Segment} {body : Text}
    (member : ⟨.expansion body, place⟩ ∈ prependLiteral c position segments) :
    ⟨.expansion body, place⟩ ∈ segments := by
  unfold prependLiteral at member
  split at member <;> simp_all

/-- Every expansion among the segments is one of the lexemes. -/
theorem mem_of_mem_segmentsOf
    {lexemes : List Located} {body : Text} {place : Nat}
    (member : ⟨.expansion body, place⟩ ∈ segmentsOf lexemes) :
    ⟨place, .expansion body⟩ ∈ lexemes := by
  induction lexemes with
  | nil => simp [segmentsOf] at member
  | cons located rest ih =>
    obtain ⟨position, lexeme⟩ := located
    rw [segmentsOf, List.foldr_cons, ← segmentsOf] at member
    cases lexeme with
    | plain c => exact List.mem_cons_of_mem _ (ih (mem_of_mem_prependLiteral member))
    | dollarPair => exact List.mem_cons_of_mem _ (ih (mem_of_mem_prependLiteral member))
    | escaped c =>
      rcases List.mem_cons.mp member with same | member
      · simp at same
      · exact List.mem_cons_of_mem _ (ih member)
    | expansion inner =>
      rcases List.mem_cons.mp member with same | member
      · obtain ⟨rfl, rfl⟩ : body = inner ∧ place = position := by simpa using same
        exact List.mem_cons_self
      · exact List.mem_cons_of_mem _ (ih member)

/-- Read text into segments. -/
def scan (escapes : Bool) (text : Text) : Except Failure (List Segment) :=
  (readLexemes escapes 0 [] text).map segmentsOf

/-- The body of every expansion that is scanned is shorter than the text by three. -/
theorem length_of_mem_scan
    {escapes : Bool} {text : Text} {segments : List Segment} {body : Text} {place : Nat}
    (scanned : scan escapes text = .ok segments)
    (member : ⟨.expansion body, place⟩ ∈ segments) :
    body.length + 3 ≤ text.length := by
  unfold scan at scanned
  cases read : readLexemes escapes 0 [] text with
  | error failure => simp [read, Except.map] at scanned
  | ok lexemes =>
    obtain rfl : segmentsOf lexemes = segments := by simpa [read, Except.map] using scanned
    simpa using length_of_mem_readLexemes read (mem_of_mem_segmentsOf member)

end ParameterExpansion.Template
