import ParameterExpansion.Proofs.Expansion.Words
import ParameterExpansion.Proofs.Template.Parsing

/-!
# Words and patterns are expanded alike

A word is expanded to one text, and as a pattern to the pieces of which that text is made.  Both are
traversals of the same parts with the same dialogues, so against every source, stateful ones
included, they ask the same questions and end in the same way, and joining the pieces gives the text.
The pieces stand for the parts one by one, and only the quoted parts give inactive pieces.
-/

namespace ParameterExpansion.Template

theorem Part.isActive_eq_false_iff (part : Part) :
    part.isActive = false ↔ ∃ text, part = .escaped text := by
  cases part <;> simp [Part.isActive]

end ParameterExpansion.Template

namespace ParameterExpansion.Expansion

open Template

/-! ## Traversals -/

/-- Changing the values of a traversal is changing the value of each step. -/
theorem map_mapM
    {Item Value Result : Type}
    (change : Value → Result)
    (step : Item → Dialogue Value)
    (items : List Item) :
    List.map change <$> items.mapM step = items.mapM fun item => change <$> step item := by
  induction items with
  | nil => rfl
  | cons item items ih =>
      rw [List.mapM_cons, List.mapM_cons, ← ih]
      simp only [map_eq_pure_bind, bind_assoc, pure_bind, List.map_cons]

/-- Every value of a traversal is what its item gives in some run. -/
theorem Dialogue.forall₂_of_run_mapM
    {State Item Value : Type} {mode : Mode} {source : Source State} {state : State}
    {step : Item → Dialogue Value} {items : List Item} {values : List Value}
    (succeeded : ((items.mapM step).run mode source state).outcome = .ok values) :
    List.Forall₂
      (fun item value => ∃ before, ((step item).run mode source before).outcome = .ok value)
      items values := by
  induction items generalizing values state with
  | nil =>
      cases succeeded
      exact List.Forall₂.nil
  | cons item items ih =>
      rw [List.mapM_cons, run_bind, Run.outcome_andThen] at succeeded
      rcases (bind_eq_ok_iff _ _ _).mp succeeded with ⟨value, first, succeeded⟩
      rw [run_bind, Run.outcome_andThen] at succeeded
      rcases (bind_eq_ok_iff _ _ _).mp succeeded with ⟨rest, others, same⟩
      cases same
      exact List.Forall₂.cons ⟨state, first⟩ (ih others)

/-! ## Words as patterns -/

/-- Expanding a word is expanding it as a pattern and joining the pieces. -/
theorem expandWord_eq_map_expandPattern (word : Word) :
    expandWord word = List.flatMap Glob.Piece.text <$> expandPattern word := by
  have texts :
      word.mapM expandPart = List.map Glob.Piece.text <$> expandPattern word := by
    rw [expandPattern_eq, map_mapM]
    simp only [Functor.map_map, id_map']
  rw [expandWord_eq, texts, Functor.map_map]
  rfl

/-- A piece of a pattern is active unless its part is quoted. -/
theorem forall₂_active_of_run_expandPattern
    {State : Type} {word : Word} {mode : Mode} {source : Source State} {state : State}
    {pieces : List Glob.Piece}
    (succeeded : ((expandPattern word).run mode source state).outcome = .ok pieces) :
    List.Forall₂ (fun part piece => piece.active = part.isActive) word pieces := by
  rw [expandPattern_eq] at succeeded
  apply (Dialogue.forall₂_of_run_mapM succeeded).imp
  rintro part piece ⟨before, expanded⟩
  rw [Dialogue.run_map] at expanded
  cases found : ((expandPart part).run mode source before).outcome with
  | error failure => simp [found, Except.map] at expanded
  | ok text =>
      simp only [found, Except.map, Except.ok.injEq] at expanded
      rw [← expanded]

/--
Expanding a word and expanding it as a pattern, from one state of the source, succeed together.  The
text is then made of the pieces in order, of which there is one for each part, inactive exactly if
the part is quoted.  They fail together, with the same failure, and in any case they ask the same
questions and leave the same state.
-/
theorem run_expandPattern_agrees_with_expandWord
    {State : Type}
    (word : Word)
    (mode : Mode)
    (source : Source State)
    (state : State) :
    let joined := (expandWord word).run mode source state
    let apart := (expandPattern word).run mode source state
    ((∃ pieces, apart.outcome = .ok pieces) ↔ ∃ text, joined.outcome = .ok text) ∧
    (∀ pieces, apart.outcome = .ok pieces →
      joined.outcome = .ok (pieces.flatMap Glob.Piece.text) ∧
        List.Forall₂ (fun part piece => piece.active = false ↔ ∃ quoted, part = .escaped quoted)
          word pieces) ∧
    (∀ failure, apart.outcome = .error failure ↔ joined.outcome = .error failure) ∧
    apart.questions = joined.questions ∧
    apart.state = joined.state := by
  intro joined apart
  have same :
      joined =
        ⟨apart.outcome.map (List.flatMap Glob.Piece.text), apart.questions, apart.state⟩ := by
    rw [← Dialogue.run_map, ← expandWord_eq_map_expandPattern]
  rw [same]
  refine ⟨?_, ?_, ?_, rfl, rfl⟩
  · cases apart.outcome with
    | error failure => simp [Except.map]
    | ok pieces => simp [Except.map]
  · intro pieces succeeded
    constructor
    · rw [succeeded]
      rfl
    · apply (forall₂_active_of_run_expandPattern succeeded).imp
      intro part piece active
      rw [active, Part.isActive_eq_false_iff]
  · intro failure
    cases apart.outcome with
    | error own => simp [Except.map]
    | ok pieces => simp [Except.map]

/-- The pattern `*\*${x}${x}` is expanded with a source that counts the questions it is asked. -/
theorem run_expandPattern_agrees_with_expandWord_counted :
    let counter : Source Nat := fun _ count => (⟨Text.Decimal.ofNat (count + 1), true⟩, count + 1)
    let value : Part := .expansion ['x'] .value (enclose ['x'])
    let word : Word := [.literal ['*'], .escaped ['*'], value, value]
    let apart := (expandPattern word).run .strict counter 0
    apart.outcome =
        .ok [⟨['*'], true⟩, ⟨['*'], false⟩, ⟨['1'], true⟩, ⟨['2'], true⟩] ∧
      ((expandWord word).run .strict counter 0).outcome = .ok ['*', '*', '1', '2'] ∧
      ((expandWord word).run .strict counter 0).state = 2 := by
  intro counter value word apart
  have succeeded :
      apart.outcome = .ok [⟨['*'], true⟩, ⟨['*'], false⟩, ⟨['1'], true⟩, ⟨['2'], true⟩] := by
    rfl
  rcases run_expandPattern_agrees_with_expandWord word .strict counter 0 with
    ⟨_, joins, _, _, sameState⟩
  exact ⟨succeeded, (joins _ succeeded).1, sameState.symm⟩

end ParameterExpansion.Expansion
