import ParameterExpansion.Expansion.Dialogue

/-!
# Sources of variables

A source replies to a name with a text and a mark that says whether the variable is set; the text of
a variable that is not set means nothing.  A source may have a state, which every reply may change.
Running a dialogue against a source gives the outcome, the questions asked in order, and the state
that is left.  Strict and lenient expansion are two ways to run one dialogue: they differ only in
what a mandatory question about a variable that is not set leads to.
-/

namespace ParameterExpansion.Expansion

/-- What a source says about a variable. -/
structure Reply where
  text : Text
  isSet : Bool
  deriving DecidableEq, Repr

/-- The value of a variable that is set. -/
def Reply.value? (reply : Reply) : Option Text :=
  if reply.isSet then some reply.text else none

/-- The reply for a value or for none. -/
def Reply.ofValue? : Option Text → Reply
  | some text => ⟨text, true⟩
  | none => ⟨[], false⟩

@[simp]
theorem Reply.value?_ofValue? (value? : Option Text) :
    (Reply.ofValue? value?).value? = value? := by
  cases value? <;> rfl

@[simp]
theorem Reply.isSet_ofValue? (value? : Option Text) :
    (Reply.ofValue? value?).isSet = value?.isSome := by
  cases value? <;> rfl

/-- A source of variables whose replies may depend on a state and change it. -/
abbrev Source (State : Type) := Name → State → Reply × State

/-- A source whose replies depend on the name alone. -/
def Source.stateless {State : Type} (replies : Name → Reply) : Source State :=
  fun name state => (replies name, state)

/-- What becomes of a variable that is not set: it is empty, or the expansion fails. -/
inductive Mode where
  | lenient
  | strict
  deriving DecidableEq, Repr

/-- A question that was asked, and whether the variable was set. -/
structure Question where
  name : Name
  mandatory : Bool
  isSet : Bool
  deriving DecidableEq, Repr

/-- The question is mandatory and the variable is not set. -/
def Question.isUnmet (question : Question) : Bool :=
  question.mandatory && !question.isSet

/-- The result of running a dialogue: its outcome, the questions asked, the state that is left. -/
structure Run (State Value : Type) where
  outcome : Except Failure Value
  questions : List Question
  state : State

/-- The names asked for, in order. -/
def Run.asked {State Value : Type} (run : Run State Value) : List Name :=
  run.questions.map Question.name

namespace Dialogue

variable {State Value : Type}

/-- Run a dialogue against a source; `asked` holds the questions asked before, the last first. -/
def runFrom (mode : Mode) (source : Source State) (asked : List Question) :
    Dialogue Value → State → Run State Value
  | .answer value, state => ⟨.ok value, asked.reverse, state⟩
  | .fail failure, state => ⟨.error failure, asked.reverse, state⟩
  | .ask name mandatory resume, state =>
    let (reply, next) := source name state
    let question := ⟨name, mandatory, reply.isSet⟩
    if mode == .strict && question.isUnmet then
      ⟨.error (.variableNotSet name []), (question :: asked).reverse, next⟩
    else (resume reply.value?).runFrom mode source (question :: asked) next

/-- Run a dialogue against a source. -/
def run (mode : Mode) (source : Source State) (dialogue : Dialogue Value) (state : State) :
    Run State Value :=
  dialogue.runFrom mode source [] state

/-- Questions asked before come before those of the run and change nothing else. -/
theorem runFrom_eq
    (mode : Mode)
    (source : Source State)
    (asked : List Question)
    (dialogue : Dialogue Value)
    (state : State) :
    dialogue.runFrom mode source asked state =
      { dialogue.run mode source state with
        questions := asked.reverse ++ (dialogue.run mode source state).questions } := by
  induction dialogue generalizing asked state with
  | answer => simp [run, runFrom]
  | fail => simp [run, runFrom]
  | ask name mandatory resume ih =>
    simp only [run, runFrom]
    split
    · simp
    · rw [ih, ih _ [_] _]
      simp

@[simp]
theorem run_answer (mode : Mode) (source : Source State) (value : Value) (state : State) :
    (Dialogue.answer value).run mode source state = ⟨.ok value, [], state⟩ :=
  rfl

@[simp]
theorem run_fail (mode : Mode) (source : Source State) (failure : Failure) (state : State) :
    (Dialogue.fail failure : Dialogue Value).run mode source state =
      ⟨.error failure, [], state⟩ :=
  rfl

/-- A question comes first, and an unmet one ends a strict run. -/
theorem run_ask
    (mode : Mode)
    (source : Source State)
    (name : Name)
    (mandatory : Bool)
    (resume : Option Text → Dialogue Value)
    (state : State) :
    (Dialogue.ask name mandatory resume).run mode source state =
      let (reply, next) := source name state
      let question := ⟨name, mandatory, reply.isSet⟩
      if mode == .strict && question.isUnmet then
        ⟨.error (.variableNotSet name []), [question], next⟩
      else
        let rest := (resume reply.value?).run mode source next
        { rest with questions := question :: rest.questions } := by
  simp only [run, runFrom]
  split
  · rfl
  · rw [runFrom_eq]
    rfl

end Dialogue

end ParameterExpansion.Expansion
