import ParameterExpansion.Expansion.Source

/-!
# Running dialogues

Running a dialogue and what it goes on with is running the one and then the other, from the state
that the first leaves.  What a dialogue can fail with does not depend on the answers; in a run there
is one more failure, that of a strict run at an unmet question.
-/

namespace ParameterExpansion.Expansion

theorem Reply.isSet_of_value?
    {reply : Reply} {value : Text}
    (present : reply.value? = some value) :
    reply.isSet = true := by
  unfold value? at present
  split at present
  · assumption
  · cases present

/-! ## One run after another -/

/-- A run and the run of what follows if it succeeds. -/
def Run.andThen
    {State Value Result : Type}
    (first : Run State Value)
    (next : Value → State → Run State Result) : Run State Result :=
  match first.outcome with
  | .error failure => ⟨.error failure, first.questions, first.state⟩
  | .ok value =>
      let rest := next value first.state
      { rest with questions := first.questions ++ rest.questions }

@[simp]
theorem Run.outcome_andThen
    {State Value Result : Type}
    (first : Run State Value)
    (next : Value → State → Run State Result) :
    (first.andThen next).outcome =
      first.outcome.bind fun value => (next value first.state).outcome := by
  unfold Run.andThen
  cases first.outcome with
  | error failure => rfl
  | ok value => rfl

namespace Dialogue

variable {State Value Result : Type}

/-- An unmet question ends a strict run. -/
theorem run_ask_of_stops
    {source : Source State} {name : Name} {mandatory : Bool} {state left : State} {reply : Reply}
    (replies : source name state = (reply, left))
    (unmet : Question.isUnmet ⟨name, mandatory, reply.isSet⟩ = true)
    (resume : Option Text → Dialogue Value) :
    (ask name mandatory resume).run .strict source state =
      ⟨.error (.variableNotSet name []), [⟨name, mandatory, reply.isSet⟩], left⟩ := by
  rw [run_ask, replies]
  simp [unmet]

/-- Any other question is the first of the run that goes on with the reply. -/
theorem run_ask_of_goesOn
    {mode : Mode} {source : Source State} {name : Name} {mandatory : Bool} {state left : State}
    {reply : Reply}
    (replies : source name state = (reply, left))
    (goesOn : mode = .strict → Question.isUnmet ⟨name, mandatory, reply.isSet⟩ = false)
    (resume : Option Text → Dialogue Value) :
    (ask name mandatory resume).run mode source state =
      let rest := (resume reply.value?).run mode source left
      { rest with questions := ⟨name, mandatory, reply.isSet⟩ :: rest.questions } := by
  rw [run_ask, replies]
  apply if_neg
  intro stops
  rcases Bool.and_eq_true_iff.mp stops with ⟨isStrict, unmet⟩
  rw [goesOn (beq_iff_eq.mp isStrict)] at unmet
  cases unmet

/-- A question that cannot be unmet is answered, and the run goes on with the reply. -/
theorem outcome_run_ask
    {mode : Mode} {source : Source State} {name : Name} {mandatory : Bool} {state : State}
    (isMet : mandatory = true → (source name state).1.isSet = true)
    (resume : Option Text → Dialogue Value) :
    ((ask name mandatory resume).run mode source state).outcome =
      ((resume (source name state).1.value?).run mode source (source name state).2).outcome := by
  have goesOn : Question.isUnmet ⟨name, mandatory, (source name state).1.isSet⟩ = false := by
    cases mandatory with
    | false => rfl
    | true => simp [Question.isUnmet, isMet rfl]
  rw [run_ask_of_goesOn rfl fun _ => goesOn]

/-- A question ends the run, which is then strict, or the run goes on with the reply. -/
theorem stops_or_goesOn (mode : Mode) (question : Question) :
    mode = .strict ∧ question.isUnmet = true ∨
      (mode = .strict → question.isUnmet = false) := by
  cases mode with
  | lenient => exact Or.inr (by simp)
  | strict => cases question.isUnmet <;> simp

theorem run_bind
    (mode : Mode)
    (source : Source State)
    (dialogue : Dialogue Value)
    (next : Value → Dialogue Result)
    (state : State) :
    (dialogue >>= next).run mode source state =
      (dialogue.run mode source state).andThen fun value => (next value).run mode source := by
  induction dialogue generalizing state with
  | answer value => rfl
  | fail failure => rfl
  | ask name mandatory resume ih =>
      rcases replies : source name state with ⟨reply, left⟩
      rw [ask_bind]
      rcases stops_or_goesOn mode ⟨name, mandatory, reply.isSet⟩ with ⟨rfl, unmet⟩ | goesOn
      · rw [run_ask_of_stops replies unmet, run_ask_of_stops replies unmet]
        rfl
      · rw [run_ask_of_goesOn replies goesOn, run_ask_of_goesOn replies goesOn, ih]
        unfold Run.andThen
        cases (run mode source (resume reply.value?) left).outcome with
        | error failure => rfl
        | ok value => rfl

/-- A step that only changes the value changes nothing else in the run. -/
theorem run_map
    (mode : Mode)
    (source : Source State)
    (change : Value → Result)
    (dialogue : Dialogue Value)
    (state : State) :
    (change <$> dialogue).run mode source state =
      ⟨(dialogue.run mode source state).outcome.map change,
        (dialogue.run mode source state).questions,
        (dialogue.run mode source state).state⟩ := by
  rw [← bind_pure_comp, run_bind, Run.andThen]
  cases (dialogue.run mode source state).outcome with
  | error failure => rfl
  | ok value => simp [Except.map]

/-! ## Failures -/

/-- Whatever the answers are, the dialogue fails only with failures of a kind. -/
def FailsOnly (holds : Failure → Prop) : Dialogue Value → Prop
  | answer _ => True
  | fail failure => holds failure
  | ask _ _ resume => ∀ reply, (resume reply).FailsOnly holds

theorem FailsOnly.mono
    {holds holds' : Failure → Prop} {dialogue : Dialogue Value}
    (fails : dialogue.FailsOnly holds)
    (weaken : ∀ failure, holds failure → holds' failure) :
    dialogue.FailsOnly holds' := by
  induction dialogue with
  | answer value => exact True.intro
  | fail failure => exact weaken failure fails
  | ask name mandatory resume ih => exact fun reply => ih reply (fails reply)

theorem FailsOnly.bind
    {holds : Failure → Prop} {dialogue : Dialogue Value} {next : Value → Dialogue Result}
    (fails : dialogue.FailsOnly holds)
    (nextFails : ∀ value, (next value).FailsOnly holds) :
    (dialogue >>= next).FailsOnly holds := by
  induction dialogue with
  | answer value => exact nextFails value
  | fail failure => exact fails
  | ask name mandatory resume ih => exact fun reply => ih reply (fails reply)

theorem FailsOnly.map
    {holds : Failure → Prop} {dialogue : Dialogue Value}
    (fails : dialogue.FailsOnly holds)
    (change : Value → Result) :
    (change <$> dialogue).FailsOnly holds := by
  rw [← bind_pure_comp]
  exact fails.bind fun _ => True.intro

theorem FailsOnly.mapM
    {Item : Type} {holds : Failure → Prop} {step : Item → Dialogue Value} {items : List Item}
    (fails : ∀ item ∈ items, (step item).FailsOnly holds) :
    (items.mapM step).FailsOnly holds := by
  induction items with
  | nil => exact True.intro
  | cons item items ih =>
      rw [List.mapM_cons]
      apply (fails item List.mem_cons_self).bind
      intro value
      exact (ih fun other member => fails other (List.mem_cons_of_mem item member)).bind
        fun _ => True.intro

/-- A run fails as its dialogue does, or it is strict and stops at an unmet question. -/
theorem FailsOnly.of_run
    {holds : Failure → Prop} {dialogue : Dialogue Value} {mode : Mode} {source : Source State}
    {state : State} {failure : Failure}
    (fails : dialogue.FailsOnly holds)
    (failed : (dialogue.run mode source state).outcome = .error failure) :
    holds failure ∨
      mode = .strict ∧
        ∃ question ∈ (dialogue.run mode source state).questions,
          question.isUnmet = true ∧ failure = .variableNotSet question.name [] := by
  induction dialogue generalizing state with
  | answer value => cases failed
  | fail own =>
      cases failed
      exact Or.inl fails
  | ask name mandatory resume ih =>
      rcases replies : source name state with ⟨reply, left⟩
      rcases stops_or_goesOn mode ⟨name, mandatory, reply.isSet⟩ with ⟨rfl, unmet⟩ | goesOn
      · rw [run_ask_of_stops replies unmet] at failed ⊢
        cases failed
        exact Or.inr ⟨rfl, _, List.mem_singleton_self _, unmet, rfl⟩
      · rw [run_ask_of_goesOn replies goesOn] at failed ⊢
        rcases ih reply.value? (fails reply.value?) failed with
          own | ⟨isStrict, question, member, unmet, same⟩
        · exact Or.inl own
        · exact Or.inr ⟨isStrict, question, List.mem_cons_of_mem _ member, unmet, same⟩

end Dialogue

end ParameterExpansion.Expansion
