import ParameterExpansion.Expansion.Source

/-!
# Dialogues in a program

A program that carries out a dialogue looks each variable up at the moment it is asked for.  What
else the program may do then is left to its monad.  If looking up does nothing but answer, the
dialogue has the outcome that it has against a source with the same answers.
-/

namespace ParameterExpansion.Expansion.Dialogue

variable {m : Type → Type} [Monad m] {Value : Type}

/-- Carry out a dialogue, looking variables up as they are asked for. -/
def runIn (mode : Mode) (lookUp : Name → m (Option Text)) :
    Dialogue Value → m (Except Failure Value)
  | .answer value => return .ok value
  | .fail failure => return .error failure
  | .ask name mandatory resume => do
    let value? ← lookUp name
    let question : Question := ⟨name, mandatory, value?.isSome⟩
    if mode == .strict && question.isUnmet then return .error (.variableNotSet name [])
    else (resume value?).runIn mode lookUp

/-- If looking up only answers, so does the dialogue, with the outcome it has against a source. -/
theorem runIn_pure
    [LawfulMonad m]
    (mode : Mode)
    (answers : Name → Option Text)
    (dialogue : Dialogue Value) :
    dialogue.runIn mode (fun name => (pure (answers name) : m (Option Text))) =
      pure (dialogue.run mode (.stateless fun name => .ofValue? (answers name)) ()).outcome := by
  induction dialogue with
  | answer value => rfl
  | fail failure => rfl
  | ask name mandatory resume ih =>
    rw [runIn, pure_bind, run_ask]
    simp only [Source.stateless, Reply.isSet_ofValue?, Reply.value?_ofValue?]
    split
    · rfl
    · exact ih (answers name)

end ParameterExpansion.Expansion.Dialogue
