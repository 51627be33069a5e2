import ParameterExpansion.Proofs.Expansion.Words
import ParameterExpansion.Proofs.Template.Concatenation

/-!
# Expanding templates one behind the other

Joining literal text that meets literal text changes nothing about what a word expands to, so two
templates that can stand one behind the other are expanded together as one after the other: the
second from the state that the first leaves, and not at all if the first fails.
-/

namespace ParameterExpansion.Expansion

open Template

theorem expandWord_joinWords (front rest : Word) :
    expandWord (joinWords front rest) = do
      let first ← expandWord front
      let second ← expandWord rest
      return first ++ second := by
  unfold joinWords
  split
  · rename_i text more others isLast
    rcases List.getLast?_eq_some_iff.mp isLast with ⟨before, rfl⟩
    rw [List.dropLast_concat]
    simp [expandWord_eq, List.mapM_append, expandPart, ← bind_pure_comp]
  · exact expandWord_append _ _

theorem expand_of_parseText_eq_ok
    {State : Type} {limits : Limits} {text : Text} {word : Word}
    (parsed : parseText limits text = .ok word)
    (mode : Mode)
    (source : Source State)
    (state : State) :
    expand limits mode source text state = (expandWord word).run mode source state := by
  rw [expand, Template.parse, parsed]
  rfl

/-- A template that cannot be parsed asks for nothing. -/
theorem expand_of_parseText_eq_error
    {State : Type} {limits : Limits} {text : Text} {failure : Failure}
    (failed : parseText limits text = .error failure)
    (mode : Mode)
    (source : Source State)
    (state : State) :
    expand limits mode source text state = ⟨.error failure, [], state⟩ := by
  rw [expand, Template.parse, failed]
  rfl

/-- Templates one behind the other are expanded one after the other. -/
theorem expand_append
    {State : Type} {limits : Limits} {front rest : Text} {word other : Word}
    (frontParsed : parseText limits front = .ok word)
    (restParsed : parseText limits rest = .ok other)
    (fits : (front ++ rest).length ≤ limits.size)
    (canMeet : CanMeet front rest)
    (mode : Mode)
    (source : Source State)
    (state : State) :
    expand limits mode source (front ++ rest) state =
      (expand limits mode source front state).andThen fun first left =>
        let second := expand limits mode source rest left
        { second with outcome := second.outcome.map (first ++ ·) } := by
  have parsed := parseText_append frontParsed restParsed fits canMeet
  rw [expand_of_parseText_eq_ok parsed, expand_of_parseText_eq_ok frontParsed,
    expandWord_joinWords, Dialogue.run_bind]
  congr 1
  funext first left
  rw [bind_pure_comp, Dialogue.run_map, expand_of_parseText_eq_ok restParsed]

/--
Two templates that can be parsed, and that can stand one behind the other, are parsed together as
their parts in order, with literal text that meets literal text joined.  Expanding them together
with some variables gives the one text and then the other, or else the first failure.
-/
theorem parse_append_and_expandWith_append
    {limits : Limits} {front rest : Text} {word other : Word}
    (frontParsed : parseText limits front = .ok word)
    (restParsed : parseText limits rest = .ok other)
    (fits : front.length + rest.length ≤ limits.size)
    (canMeet : CanMeet front rest) :
    parseText limits (front ++ rest) = .ok (joinWords word other) ∧
    (∀ mode bindings,
      expandWith limits mode bindings (front ++ rest) = do
        let first ← expandWith limits mode bindings front
        let second ← expandWith limits mode bindings rest
        return first ++ second) ∧
    ∀ (State : Type) (mode : Mode) (source : Source State) (state : State),
      expand limits mode source (front ++ rest) state =
        (expand limits mode source front state).andThen fun first left =>
          let second := expand limits mode source rest left
          { second with outcome := second.outcome.map (first ++ ·) } := by
  have fits : (front ++ rest).length ≤ limits.size := by
    rw [List.length_append]
    exact_mod_cast fits
  refine ⟨parseText_append frontParsed restParsed fits canMeet, ?_, ?_⟩
  · intro mode bindings
    have left : (expand limits mode bindings.asSource front ()).state = () := rfl
    rw [expandWith, expand_append frontParsed restParsed fits canMeet, Run.outcome_andThen, left]
    unfold expandWith
    cases (expand limits mode bindings.asSource front ()).outcome with
    | error failure => rfl
    | ok first =>
        show (expand limits mode bindings.asSource rest ()).outcome.map (first ++ ·) = do
          let second ← (expand limits mode bindings.asSource rest ()).outcome
          return first ++ second
        cases (expand limits mode bindings.asSource rest ()).outcome with
        | error failure => rfl
        | ok second => rfl
  · intro State mode source state
    exact expand_append frontParsed restParsed fits canMeet mode source state

/-- An opening brace behind a pair of dollars opens nothing. -/
theorem parse_and_expandWith_brace_behind_pair :
    parseText {} (enclose ['x'] ++ ['$', '$'] ++ ['{', 'y']) =
      .ok [.expansion ['x'] .value (enclose ['x']), .literal ['$', '{', 'y']] ∧
    expandWith {} .strict ⟨[(['x'], ['1'])]⟩ (enclose ['x'] ++ ['$', '$'] ++ ['{', 'y']) =
      .ok ['1', '$', '{', 'y'] := by
  have frontParsed :
      parseText {} (enclose ['x'] ++ ['$', '$']) =
        .ok [.expansion ['x'] .value (enclose ['x']), .literal ['$']] := by
    have closed : closeBody? ['x', '}'] = some (['x'], []) := rfl
    have lexes :=
      Lexes.expansion (closeBody?_eq_some_iff.mp closed).1 (Lexes.pair (@Lexes.nil false))
    have read : readBody ['x'] = .ok (['x'], .value) := by cbv
    have body : parseBody {} 0 ['x'] = .ok (.expansion ['x'] .value (enclose ['x'])) :=
      parseBody_eq_ok_iff.mpr ⟨_, _, _, read, .value, rfl⟩
    refine parseText_eq_ok_iff.mpr ⟨by decide, parseWord_eq_ok_iff.mpr ⟨by decide, _, lexes, ?_⟩⟩
    exact List.Forall₂.cons (.expansion body) (List.Forall₂.cons (.literal ['$']) .nil)
  have restParsed : parseText {} ['{', 'y'] = .ok [.literal ['{', 'y']] := by
    have lexes : Lexes false ['{', 'y'] [.plain '{', .plain 'y'] :=
      .plain (by simp [IsMark]) (by simp [IsQuote])
        (.plain (by simp [IsMark]) (by simp [IsQuote]) .nil)
    refine parseText_eq_ok_iff.mpr ⟨by decide, parseWord_eq_ok_iff.mpr ⟨by decide, _, lexes, ?_⟩⟩
    exact List.Forall₂.cons (.literal ['{', 'y']) .nil
  have canMeet : CanMeet (enclose ['x'] ++ ['$', '$']) ['{', 'y'] := Or.inl (by decide)
  rcases parse_append_and_expandWith_append frontParsed restParsed (by decide) canMeet with
    ⟨parsed, expanded, _⟩
  refine ⟨parsed, ?_⟩
  rw [expanded, expandWith, expandWith, expand_of_parseText_eq_ok frontParsed,
    expand_of_parseText_eq_ok restParsed]
  rfl

end ParameterExpansion.Expansion
