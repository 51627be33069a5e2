import Mathlib.Data.List.Forall2
import ParameterExpansion.Glob.Token

/-!
# The language of a pattern

A pattern stands for the texts that can be cut into consecutive pieces, one for each of its tokens
in order.  A star takes any piece, the empty one included, and every other token takes one
character.  The laws below say which texts a pattern stands for by its first token, and that a
reversed pattern stands for the reversed texts.
-/

namespace ParameterExpansion.Glob

/-- The pieces of text that a token can stand for. -/
def Token.Takes : Token → Text → Prop
  | .star, _ => True
  | token, piece => ∃ c, piece = [c] ∧ token.contains c = true

/-- The text can be cut into pieces, one for each token of the pattern in order. -/
def Matches (pattern : List Token) (text : Text) : Prop :=
  ∃ pieces : List Text,
    List.Forall₂ Token.Takes pattern pieces ∧ pieces.flatten = text

@[simp]
theorem Token.takes_star (piece : Text) :
    Token.star.Takes piece := by
  exact True.intro

theorem Token.takes_iff_of_ne_star
    {token : Token}
    (single : token ≠ .star)
    (piece : Text) :
    token.Takes piece ↔
      ∃ c, piece = [c] ∧ token.contains c = true := by
  cases token with
  | star => exact (single rfl).elim
  | literal own => exact Iff.rfl
  | any => exact Iff.rfl
  | bracket set => exact Iff.rfl

theorem Token.takes_reverse
    {token : Token} {piece : Text}
    (takes : token.Takes piece) :
    token.Takes piece.reverse := by
  by_cases single : token = .star
  · rw [single]
    exact Token.takes_star _
  · rw [Token.takes_iff_of_ne_star single] at takes ⊢
    rcases takes with ⟨c, rfl, contained⟩
    exact ⟨c, rfl, contained⟩

@[simp]
theorem matches_nil_iff (text : Text) :
    Matches [] text ↔ text = [] := by
  constructor
  · rintro ⟨pieces, cut, rfl⟩
    rw [List.forall₂_nil_left_iff.mp cut]
    rfl
  · rintro rfl
    exact ⟨[], List.Forall₂.nil, rfl⟩

/-- The first token takes the first piece, and the others what is left. -/
theorem matches_cons_iff
    (token : Token)
    (pattern : List Token)
    (text : Text) :
    Matches (token :: pattern) text ↔
      ∃ piece rest,
        token.Takes piece ∧ Matches pattern rest ∧ piece ++ rest = text := by
  constructor
  · rintro ⟨pieces, cut, rfl⟩
    rcases List.forall₂_cons_left_iff.mp cut with
      ⟨piece, others, takes, cutRest, rfl⟩
    exact ⟨piece, others.flatten, takes, ⟨others, cutRest, rfl⟩, rfl⟩
  · rintro ⟨piece, rest, takes, ⟨others, cutRest, rfl⟩, rfl⟩
    exact ⟨piece :: others, List.Forall₂.cons takes cutRest, rfl⟩

theorem matches_star_of_matches
    {pattern : List Token} {text : Text}
    (rest : Matches pattern text) :
    Matches (.star :: pattern) text := by
  rw [matches_cons_iff]
  exact ⟨[], text, Token.takes_star _, rest, rfl⟩

@[simp]
theorem matches_star_nil_iff (pattern : List Token) :
    Matches (.star :: pattern) [] ↔ Matches pattern [] := by
  constructor
  · intro whole
    rcases (matches_cons_iff _ _ _).mp whole with
      ⟨piece, rest, _, rests, empty⟩
    obtain ⟨_, rfl⟩ := List.append_eq_nil_iff.mp empty
    exact rests
  · exact matches_star_of_matches

/-- A star in front takes the first character and stays, or it has ended. -/
theorem matches_star_cons_iff
    (pattern : List Token)
    (c : Char)
    (text : Text) :
    Matches (.star :: pattern) (c :: text) ↔
      Matches (.star :: pattern) text ∨ Matches pattern (c :: text) := by
  constructor
  · intro whole
    rcases (matches_cons_iff _ _ _).mp whole with
      ⟨piece, rest, _, rests, joined⟩
    cases piece with
    | nil =>
        rw [List.nil_append] at joined
        subst rest
        exact Or.inr rests
    | cons first others =>
        obtain ⟨rfl, rfl⟩ : first = c ∧ others ++ rest = text := by
          simpa using joined
        refine Or.inl ((matches_cons_iff _ _ _).mpr ?_)
        exact ⟨others, rest, Token.takes_star _, rests, rfl⟩
  · rintro (stays | ended)
    · rcases (matches_cons_iff _ _ _).mp stays with
        ⟨piece, rest, _, rests, rfl⟩
      rw [matches_cons_iff]
      exact ⟨c :: piece, rest, Token.takes_star _, rests, rfl⟩
    · exact matches_star_of_matches ended

theorem not_matches_nil_of_ne_star
    {token : Token}
    (single : token ≠ .star)
    (pattern : List Token) :
    ¬ Matches (token :: pattern) [] := by
  intro whole
  rcases (matches_cons_iff _ _ _).mp whole with
    ⟨piece, rest, takes, _, joined⟩
  rcases (Token.takes_iff_of_ne_star single piece).mp takes with ⟨c, rfl, _⟩
  simp at joined

theorem matches_cons_cons_iff_of_ne_star
    {token : Token}
    (single : token ≠ .star)
    (pattern : List Token)
    (c : Char)
    (text : Text) :
    Matches (token :: pattern) (c :: text) ↔
      token.contains c = true ∧ Matches pattern text := by
  constructor
  · intro whole
    rcases (matches_cons_iff _ _ _).mp whole with
      ⟨piece, rest, takes, rests, joined⟩
    rcases (Token.takes_iff_of_ne_star single piece).mp takes with
      ⟨own, rfl, contained⟩
    obtain ⟨rfl, rfl⟩ : own = c ∧ rest = text := by
      simpa using joined
    exact ⟨contained, rests⟩
  · rintro ⟨contained, rests⟩
    rw [matches_cons_iff]
    refine ⟨[c], text, ?_, rests, rfl⟩
    exact (Token.takes_iff_of_ne_star single _).mpr ⟨c, rfl, contained⟩

/-! ## Reversal -/

theorem Matches.reverse
    {pattern : List Token} {text : Text}
    (whole : Matches pattern text) :
    Matches pattern.reverse text.reverse := by
  rcases whole with ⟨pieces, cut, rfl⟩
  refine ⟨(pieces.map List.reverse).reverse, ?_, ?_⟩
  · apply List.forall₂_reverse_iff.mpr
    rw [List.forall₂_map_right_iff]
    exact cut.imp fun _ _ takes => Token.takes_reverse takes
  · rw [List.reverse_flatten]

@[simp]
theorem matches_reverse_iff
    (pattern : List Token)
    (text : Text) :
    Matches pattern.reverse text.reverse ↔ Matches pattern text := by
  constructor
  · intro reversed
    simpa using reversed.reverse
  · exact Matches.reverse

end ParameterExpansion.Glob
