import ParameterExpansion.Glob.Bracket

/-!
# Glob patterns

A glob pattern is a list of tokens: a character that matches itself, `?` for any one character, `*`
for any run of characters, or a bracket expression.  Pattern text comes in pieces; characters of an
inactive piece all match themselves.  Pieces are read one by one, so a bracket expression lies
within one piece, and neighbouring stars, which match no more than one star does, become one.
-/

namespace ParameterExpansion.Glob

/-- One element of a glob pattern. -/
inductive Token where
  | literal (c : Char)
  | any
  | star
  | bracket (set : Bracket)
  deriving DecidableEq, Repr

/-- The token matches this one character.  A star stands for a run and matches no single one. -/
def Token.contains (c : Char) : Token → Bool
  | .literal own => c == own
  | .any => true
  | .star => false
  | .bracket set => set.contains c

/-- Pattern text, and whether its special characters are active. -/
structure Piece where
  text : Text
  active : Bool
  deriving DecidableEq, Repr

/-- Read active pattern text; `done` holds the tokens read, the last first. -/
def readTokens (done : List Token) (text : Text) : List Token :=
  match text with
  | [] => done.reverse
  | '*' :: rest => readTokens (.star :: done) rest
  | '?' :: rest => readTokens (.any :: done) rest
  | '[' :: rest =>
    match found : Bracket.read? rest with
    | some (set, after) =>
      have := Bracket.length_lt_of_read? found
      readTokens (.bracket set :: done) after
    | none => readTokens (.literal '[' :: done) rest
  | c :: rest => readTokens (.literal c :: done) rest
termination_by text.length

/-- The tokens of one piece. -/
def Piece.tokens (piece : Piece) : List Token :=
  if piece.active then readTokens [] piece.text else piece.text.map .literal

/-- Put a token in front of a pattern, unless it is a star before a star. -/
def prepend (token : Token) (pattern : List Token) : List Token :=
  match token, pattern with
  | .star, .star :: _ => pattern
  | _, _ => token :: pattern

/-- The pattern that pieces make together, without neighbouring stars. -/
def compile (pieces : List Piece) : List Token :=
  (pieces.flatMap Piece.tokens).foldr prepend []

end ParameterExpansion.Glob
