import ParameterExpansion.Proofs.Expansion.Words
import ParameterExpansion.Template

/-!
# Strict and lenient expansion

Both modes run one dialogue.  As long as every mandatory question is met, the two runs are the same;
at the first unmet one the strict run stops and the lenient run goes on with an empty value.  So the
strict run of a template is its lenient run, cut at the first plain reference to a variable that is
not set.
-/

namespace ParameterExpansion.Expansion

open Template

namespace Dialogue

variable {State Value : Type}

/-- A question is the first of a lenient run, which goes on with the reply. -/
theorem run_lenient_ask
    {source : Source State} {name : Name} {mandatory : Bool} {state left : State} {reply : Reply}
    (replies : source name state = (reply, left))
    (resume : Option Text → Dialogue Value) :
    (ask name mandatory resume).run .lenient source state =
      let rest := (resume reply.value?).run .lenient source left
      { rest with questions := ⟨name, mandatory, reply.isSet⟩ :: rest.questions } := by
  apply run_ask_of_goesOn replies
  intro isStrict
  cases isStrict

/-- The runs are the same if the lenient run meets every mandatory question. -/
theorem run_strict_of_met
    {source : Source State} {dialogue : Dialogue Value} {state : State}
    (met : ∀ question ∈ (dialogue.run .lenient source state).questions,
      question.isUnmet = false) :
    dialogue.run .strict source state = dialogue.run .lenient source state := by
  induction dialogue generalizing state with
  | answer value => rfl
  | fail failure => rfl
  | ask name mandatory resume ih =>
      rcases replies : source name state with ⟨reply, left⟩
      rw [run_lenient_ask replies] at met ⊢
      rcases List.forall_mem_cons.mp met with ⟨first, others⟩
      rw [run_ask_of_goesOn replies fun _ => first, ih reply.value? others]

/-- The strict run stops at the first unmet question of the lenient run. -/
theorem run_strict_of_unmet
    {source : Source State} {dialogue : Dialogue Value} {state : State}
    {before after : List Question} {question : Question}
    (questions : (dialogue.run .lenient source state).questions = before ++ question :: after)
    (met : ∀ earlier ∈ before, earlier.isUnmet = false)
    (unmet : question.isUnmet = true) :
    (dialogue.run .strict source state).outcome = .error (.variableNotSet question.name []) ∧
      (dialogue.run .strict source state).questions = before ++ [question] := by
  induction dialogue generalizing state before with
  | answer value => simp at questions
  | fail failure => simp at questions
  | ask name mandatory resume ih =>
      rcases replies : source name state with ⟨reply, left⟩
      rw [run_lenient_ask replies] at questions
      cases before with
      | nil =>
          rcases List.cons.inj questions with ⟨rfl, _⟩
          rw [run_ask_of_stops replies unmet]
          exact ⟨rfl, rfl⟩
      | cons first before =>
          rcases List.cons.inj questions with ⟨rfl, others⟩
          rcases List.forall_mem_cons.mp met with ⟨firstMet, othersMet⟩
          rw [run_ask_of_goesOn replies fun _ => firstMet]
          rcases ih reply.value? others othersMet with ⟨outcome, asked⟩
          exact ⟨outcome, congrArg (_ :: ·) asked⟩

/-- A strict run fails for want of a variable only where the lenient run has an unmet question. -/
theorem exists_unmet_of_run_strict
    {holds : Failure → Prop} {source : Source State} {dialogue : Dialogue Value} {state : State}
    {name : Name} {detail : Text}
    (fails : dialogue.FailsOnly holds)
    (other : ¬ holds (.variableNotSet name detail))
    (failed : (dialogue.run .strict source state).outcome =
      .error (.variableNotSet name detail)) :
    ∃ question ∈ (dialogue.run .lenient source state).questions, question.isUnmet = true := by
  by_contra none
  have met : ∀ question ∈ (dialogue.run .lenient source state).questions,
      question.isUnmet = false := by
    intro question member
    exact Bool.eq_false_iff.mpr fun unmet => none ⟨question, member, unmet⟩
  rw [run_strict_of_met met] at failed
  rcases fails.of_run failed with own | ⟨isStrict, _⟩
  · exact other own
  · cases isStrict

end Dialogue

theorem IsRaisedIn.ne_variableNotSet
    {expansions : List Part} {name : Name} {detail : Text} :
    ¬ IsRaisedIn expansions (.variableNotSet name detail) := by
  rintro ⟨part, _, raises⟩
  cases raises

/--
Every question of a lenient run is asked at an expansion of the template, in the order in which these
are written, and it is mandatory unless the operation is one on presence.  The lenient run never
fails for want of a variable.  The strict run does so exactly if a mandatory question of the lenient
run is unmet; it then names the first such variable, and its questions are those of the lenient run
up to that one.  Otherwise the two runs are the same.
-/
theorem expand_strict_iff_lenient_unmet
    {State : Type}
    (template : Template)
    (source : Source State)
    (state : State) :
    let lenient := template.expand .lenient source state
    let strict := template.expand .strict source state
    (∃ visited,
      visited.Sublist (wordExpansions template.word) ∧
        List.Forall₂ IsAskedAt visited lenient.questions) ∧
    (∀ name detail, lenient.outcome ≠ .error (.variableNotSet name detail)) ∧
    ((∃ name detail, strict.outcome = .error (.variableNotSet name detail)) ↔
      ∃ question ∈ lenient.questions, question.isUnmet = true) ∧
    (∀ before question after,
      lenient.questions = before ++ question :: after →
      (∀ earlier ∈ before, earlier.isUnmet = false) →
      question.isUnmet = true →
        strict.outcome = .error (.variableNotSet question.name []) ∧
          strict.questions = before ++ [question]) ∧
    ((∀ question ∈ lenient.questions, question.isUnmet = false) → strict = lenient) := by
  intro lenient strict
  have confined := isConfined template.word
  refine ⟨confined.asks.questions .lenient source state, ?_, ⟨?_, ?_⟩, ?_, ?_⟩
  · intro name detail failed
    rcases confined.fails.of_run failed with own | ⟨isStrict, _⟩
    · exact own.ne_variableNotSet
    · cases isStrict
  · rintro ⟨name, detail, failed⟩
    exact Dialogue.exists_unmet_of_run_strict confined.fails IsRaisedIn.ne_variableNotSet failed
  · rintro ⟨question, member, unmet⟩
    cases found : lenient.questions.find? Question.isUnmet with
    | none => exact (List.find?_eq_none.mp found question member unmet).elim
    | some first =>
        rcases List.find?_eq_some_iff_append.mp found with ⟨firstUnmet, before, after, split, met⟩
        have earlierMet : ∀ earlier ∈ before, earlier.isUnmet = false := by simpa using met
        have stopped := Dialogue.run_strict_of_unmet split earlierMet firstUnmet
        exact ⟨first.name, [], stopped.1⟩
  · intro before question after questions met unmet
    exact Dialogue.run_strict_of_unmet questions met unmet
  · exact Dialogue.run_strict_of_met

/-- In `${a}${b:-${c}}${d}` with only the first variable set, the strict run stops in the default. -/
theorem expand_strict_stops_in_default :
    let source : Source Unit := .stateless fun name => ⟨['1'], name == ['a']⟩
    let inner := enclose ['c']
    let middle := enclose (['b', ':', '-'] ++ inner)
    let template : Template :=
      ⟨enclose ['a'] ++ middle ++ enclose ['d'], [
        .expansion ['a'] .value (enclose ['a']),
        .expansion ['b'] (.fallback true .minus [.expansion ['c'] .value inner]) middle,
        .expansion ['d'] .value (enclose ['d'])]⟩
    (template.expand .strict source ()).outcome = .error (.variableNotSet ['c'] []) ∧
      (template.expand .strict source ()).asked = [['a'], ['b'], ['c']] := by
  intro source inner middle template
  rcases expand_strict_iff_lenient_unmet template source () with ⟨_, _, _, stops, _⟩
  rcases stops [⟨['a'], true, true⟩, ⟨['b'], false, false⟩] ⟨['c'], true, false⟩
      [⟨['d'], true, false⟩] rfl (by decide) rfl with
    ⟨outcome, questions⟩
  refine ⟨outcome, ?_⟩
  rw [Run.asked, questions]
  rfl

end ParameterExpansion.Expansion
