import ParameterExpansion.Proofs.Expansion.Words
import ParameterExpansion.Proofs.Template.Names
import ParameterExpansion.Template

/-!
# The names that are looked up

The names of a word are listed in the order in which they are written.  What the source says about
presence cuts the words that are not needed out of that list: a default or a message behind a
variable that is set, an alternative behind one that is not.  A run that succeeds asks for exactly the
names that are left, and a run that fails for the first of them.  So every expansion is looked up at
most once and in order, and a value that the source gives is never searched for names.
-/

namespace ParameterExpansion.Template

/-- The words of the operation are expanded, if the parameter is set or if it is not. -/
def Operation.needsWords {Word : Type} : Operation Word → Bool → Bool
  | .fallback _ _ _, isSet | .orFail _, isSet | .orFailWith _ _, isSet => !isSet
  | .alternative _ _, isSet => isSet
  | _, _ => true

/-! ## Walks -/

/-- A way through names that answers guide: it gives the names passed and the answers left. -/
abbrev Walk := List Bool → List Name × List Bool

namespace Walk

def stay : Walk :=
  fun answers => ([], answers)

def andThen (first second : Walk) : Walk :=
  fun answers =>
    let (names, answers) := first answers
    let (others, answers) := second answers
    (names ++ others, answers)

/--
Pass a name, take its answer, and go on inside unless the answer says that what is there is not
needed.  Without an answer, go on.
-/
def visit (name : Name) (needed : Bool → Bool) (inside : Walk) : Walk
  | [] => ((inside []).1.cons name, (inside []).2)
  | isSet :: answers =>
      let entered := (if needed isSet then inside else stay) answers
      (entered.1.cons name, entered.2)

theorem andThen_stay (walk : Walk) :
    walk.andThen stay = walk := by
  funext answers
  simp [andThen, stay]

/-- Without answers the walk passes all of the names, and with answers it leaves some of them out. -/
structure Within (walk : Walk) (names : List Name) : Prop where
  whole : walk [] = (names, [])
  sublist : ∀ answers, (walk answers).1.Sublist names

theorem Within.stay :
    Within stay [] := by
  exact ⟨rfl, fun _ => List.Sublist.refl _⟩

theorem Within.andThen
    {first second : Walk} {names others : List Name}
    (firstWithin : first.Within names)
    (secondWithin : second.Within others) :
    (first.andThen second).Within (names ++ others) := by
  constructor
  · simp [Walk.andThen, firstWithin.whole, secondWithin.whole]
  · intro answers
    exact (firstWithin.sublist answers).append (secondWithin.sublist _)

theorem Within.visit
    {inside : Walk} {names : List Name}
    (within : inside.Within names)
    (name : Name)
    (needed : Bool → Bool) :
    (visit name needed inside).Within (name :: names) := by
  constructor
  · simp [Walk.visit, within.whole]
  · rintro (_ | ⟨isSet, answers⟩)
    · exact (within.sublist []).cons_cons name
    · apply List.Sublist.cons_cons
      split
      · exact within.sublist answers
      · exact List.nil_sublist names

end Walk

mutual

/-- The walk through the names of a part. -/
def partWalk : Part → Walk
  | .literal _ => Walk.stay
  | .escaped _ => Walk.stay
  | .expansion name operation _ => Walk.visit name operation.needsWords (operationWalk operation)

/-- The walk through the names in the words of an operation. -/
def operationWalk : Operation (List Part) → Walk
  | .value | .length | .changeCase _ _ | .substring _ _ | .orFail _ => Walk.stay
  | .fallback _ _ word => wordWalk word
  | .alternative _ word => wordWalk word
  | .orFailWith _ message => wordWalk message
  | .remove _ _ pattern => wordWalk pattern
  | .replace _ pattern replacement => (wordWalk pattern).andThen (wordWalk replacement)

/-- The walk through the names of a word that leaves out words that are not needed. -/
def wordWalk : List Part → Walk
  | [] => Walk.stay
  | part :: rest => (partWalk part).andThen (wordWalk rest)

end

/-- A word is walked within its names, because the words of its operations are. -/
theorem within_wordWalk (word : List Part) :
    (wordWalk word).Within (wordNames word) := by
  induction word using word_induction with
  | step word ih =>
  have parts : ∀ part ∈ word, (partWalk part).Within (partNames part) := by
    intro part member
    cases part with
    | literal text => exact Walk.Within.stay
    | escaped text => exact Walk.Within.stay
    | expansion name operation raw =>
        have inner := ih name operation raw member
        apply Walk.Within.visit
        cases operation with
        | value | length | changeCase | substring | orFail => exact Walk.Within.stay
        | fallback | alternative | orFailWith | remove =>
            exact inner _ (List.mem_singleton_self _)
        | replace scope pattern replacement =>
            have patternWithin := inner pattern (by simp [Operation.words])
            exact patternWithin.andThen (inner replacement (by simp [Operation.words]))
  clear ih
  induction word with
  | nil => exact Walk.Within.stay
  | cons part rest ih =>
      rcases List.forall_mem_cons.mp parts with ⟨first, others⟩
      exact first.andThen (ih others)

/-- In `${a:-${b}}${c}` the default is left out if the first variable is set. -/
example :
    let word : Word :=
      [.expansion ['a'] (.fallback true .minus [.expansion ['b'] .value []]) [],
        .expansion ['c'] .value []]
    wordWalk word [true, false] = ([['a'], ['c']], []) ∧
      wordWalk word [false] = ([['a'], ['b'], ['c']], []) :=
  ⟨rfl, rfl⟩

end ParameterExpansion.Template

namespace ParameterExpansion.Expansion

open Template

/-! ## The calls of a source -/

/-- The source with a log of the names that it is called with. -/
def Source.logged {State : Type} (source : Source State) : Source (List Name × State) :=
  fun name (log, state) =>
    let (reply, next) := source name state
    (reply, log ++ [name], next)

/-- The names that a run asks for are those that the source is called with, call by call. -/
theorem Dialogue.run_logged
    {State Value : Type}
    (mode : Mode)
    (source : Source State)
    (dialogue : Dialogue Value)
    (log : List Name)
    (state : State) :
    let run := dialogue.run mode source state
    dialogue.run mode source.logged (log, state) =
      ⟨run.outcome, run.questions, log ++ run.asked, run.state⟩ := by
  induction dialogue generalizing log state with
  | answer value => simp [Run.asked]
  | fail failure => simp [Run.asked]
  | ask name mandatory resume ih =>
      rcases replies : source name state with ⟨reply, left⟩
      have repliesLogged : source.logged name (log, state) = (reply, log ++ [name], left) := by
        simp only [Source.logged, replies]
      rcases stops_or_goesOn mode ⟨name, mandatory, reply.isSet⟩ with ⟨rfl, unmet⟩ | goesOn
      · rw [run_ask_of_stops replies unmet, run_ask_of_stops repliesLogged unmet]
        rfl
      · rw [run_ask_of_goesOn replies goesOn, run_ask_of_goesOn repliesLogged goesOn, ih]
        simp [Run.asked]

/-! ## Runs along a walk -/

/-- What the source said about the presence of the variables asked for, in order. -/
def Run.answers {State Value : Type} (run : Run State Value) : List Bool :=
  run.questions.map Question.isSet

/--
The run asks for the names of the walk that its own answers guide: for all of them if it succeeds,
and then answers to later questions stay for what comes behind the walk; for the first of them if it
fails.
-/
def Run.Follows {State Value : Type} (run : Run State Value) (walk : Walk) : Prop :=
  match run.outcome with
  | .ok _ => ∀ more, walk (run.answers ++ more) = (run.asked, more)
  | .error _ => run.asked <+: (walk run.answers).1

theorem Run.Follows.andThen
    {State Value Result : Type} {first : Run State Value} {next : Value → State → Run State Result}
    {walk walk' : Walk}
    (follows : first.Follows walk)
    (nextFollows : ∀ value state, (next value state).Follows walk') :
    (first.andThen next).Follows (walk.andThen walk') := by
  unfold Run.andThen
  cases outcome : first.outcome with
  | error failure =>
      simp only [Run.Follows, outcome] at follows ⊢
      exact follows.trans (List.prefix_append _ _)
  | ok value =>
      simp only [Run.Follows, outcome] at follows
      have rest := nextFollows value first.state
      have answers :
          ∀ questions, (first.questions ++ questions).map Question.isSet =
            first.answers ++ questions.map Question.isSet := by
        simp [Run.answers]
      have asked :
          ∀ questions, (first.questions ++ questions).map Question.name =
            first.asked ++ questions.map Question.name := by
        simp [Run.asked]
      cases outcome' : (next value first.state).outcome with
      | error failure =>
          simp only [Run.Follows, outcome', Run.answers, Run.asked] at rest ⊢
          rw [answers, asked, Walk.andThen, follows]
          exact (List.prefix_append_right_inj _).mpr rest
      | ok result =>
          simp only [Run.Follows, outcome', Run.answers, Run.asked] at rest ⊢
          intro more
          rw [answers, asked, List.append_assoc, Walk.andThen, follows]
          simp [rest]

/-- A question in front of a run that follows the walk entered with its answer. -/
theorem Run.Follows.visit
    {State Value : Type} {run : Run State Value} {needed : Bool → Bool} {inside : Walk}
    {isSet : Bool}
    (follows : run.Follows (if needed isSet then inside else Walk.stay))
    (name : Name)
    (mandatory : Bool) :
    ({ run with questions := ⟨name, mandatory, isSet⟩ :: run.questions } : Run State Value).Follows
      (Walk.visit name needed inside) := by
  cases outcome : run.outcome with
  | error failure =>
      simp only [Run.Follows, outcome] at follows ⊢
      exact (List.prefix_cons_inj name).mpr follows
  | ok value =>
      simp only [Run.Follows, outcome] at follows ⊢
      intro more
      show Walk.visit name needed inside (isSet :: (run.answers ++ more)) = (name :: run.asked, more)
      rw [Walk.visit, follows]

/-- Every run of the dialogue, against any source, follows the walk. -/
def Dialogue.Follows {Value : Type} (dialogue : Dialogue Value) (walk : Walk) : Prop :=
  ∀ (State : Type) (mode : Mode) (source : Source State) (state : State),
    (dialogue.run mode source state).Follows walk

namespace Dialogue

variable {Value Result : Type}

theorem follows_answer (value : Value) :
    (answer value).Follows Walk.stay := by
  intro State mode source state more
  rfl

theorem follows_fail
    (failure : Failure)
    (walk : Walk) :
    (fail failure : Dialogue Value).Follows walk := by
  intro State mode source state
  exact List.nil_prefix

theorem Follows.bind
    {dialogue : Dialogue Value} {next : Value → Dialogue Result} {walk walk' : Walk}
    (follows : dialogue.Follows walk)
    (nextFollows : ∀ value, (next value).Follows walk') :
    (dialogue >>= next).Follows (walk.andThen walk') := by
  intro State mode source state
  rw [run_bind]
  exact (follows State mode source state).andThen fun value => nextFollows value State mode source

theorem Follows.map
    {dialogue : Dialogue Value} {walk : Walk}
    (follows : dialogue.Follows walk)
    (change : Value → Result) :
    (change <$> dialogue).Follows walk := by
  rw [← bind_pure_comp, ← walk.andThen_stay]
  exact follows.bind fun value => follows_answer (change value)

theorem Follows.ask
    {name : Name} {mandatory : Bool} {resume : Option Text → Dialogue Value}
    {needed : Bool → Bool} {inside : Walk}
    (absent : (resume none).Follows (if needed false then inside else Walk.stay))
    (present : ∀ value, (resume (some value)).Follows (if needed true then inside else Walk.stay)) :
    (ask name mandatory resume).Follows (Walk.visit name needed inside) := by
  intro State mode source state
  rcases replies : source name state with ⟨reply, left⟩
  rcases stops_or_goesOn mode ⟨name, mandatory, reply.isSet⟩ with ⟨rfl, unmet⟩ | goesOn
  · rw [run_ask_of_stops replies unmet]
    exact List.prefix_append [name] _
  · rw [run_ask_of_goesOn replies goesOn]
    have follows :
        (resume reply.value?).Follows (if needed reply.isSet then inside else Walk.stay) := by
      unfold Reply.value?
      cases reply.isSet with
      | false => exact absent
      | true => exact present reply.text
    exact (follows State mode source left).visit name mandatory

/-- A traversal of a word follows the walk of the word if each step follows that of its part. -/
theorem Follows.mapM
    {step : Part → Dialogue Value} {word : Word}
    (follows : ∀ part ∈ word, (step part).Follows (partWalk part)) :
    (word.mapM step).Follows (wordWalk word) := by
  induction word with
  | nil => exact follows_answer []
  | cons part rest ih =>
      rcases List.forall_mem_cons.mp follows with ⟨first, others⟩
      rw [List.mapM_cons, wordWalk]
      exact first.bind fun value => (ih others).map (value :: ·)

end Dialogue

/-! ## Words along their walk -/

/-- The word follows its walk, expanded as a word or as a pattern. -/
structure FollowsWalk (word : Word) : Prop where
  asWord : (expandWord word).Follows (wordWalk word)
  asPattern : (expandPattern word).Follows (wordWalk word)

theorem FollowsWalk.of_parts
    {word : Word}
    (follows : ∀ part ∈ word, (expandPart part).Follows (partWalk part)) :
    FollowsWalk word := by
  constructor
  · rw [expandWord_eq]
    exact (Dialogue.Follows.mapM follows).map List.flatten
  · rw [expandPattern_eq]
    exact Dialogue.Follows.mapM fun part member => (follows part member).map _

/-- An expansion passes its own name and then, if they are needed, its words. -/
theorem follows_expandOperation
    {operation : Operation (List Part)}
    (words : ∀ word ∈ operation.words, FollowsWalk word)
    (name : Name)
    (raw : Text) :
    (expandOperation name raw operation).Follows
      (Walk.visit name operation.needsWords (operationWalk operation)) := by
  cases operation with
  | value | length | changeCase =>
      apply Dialogue.Follows.ask
      · exact Dialogue.follows_answer _
      · exact fun value => Dialogue.follows_answer _
  | substring offset length? =>
      refine Dialogue.Follows.ask ?_ fun value => ?_
      · cases substring ((none : Option Text).getD []) offset length? with
        | ok text => exact Dialogue.follows_answer text
        | error fault => exact Dialogue.follows_fail _ _
      · cases substring ((some value).getD []) offset length? with
        | ok text => exact Dialogue.follows_answer text
        | error fault => exact Dialogue.follows_fail _ _
  | fallback colon sign word =>
      apply Dialogue.Follows.ask
      · exact (words word (List.mem_singleton_self _)).asWord
      · exact fun value => Dialogue.follows_answer value
  | alternative colon word =>
      apply Dialogue.Follows.ask
      · exact Dialogue.follows_answer []
      · exact fun _ => (words word (List.mem_singleton_self _)).asWord
  | orFail colon =>
      apply Dialogue.Follows.ask
      · exact Dialogue.follows_fail _ _
      · exact fun value => Dialogue.follows_answer value
  | orFailWith colon message =>
      apply Dialogue.Follows.ask
      · have expanded := (words message (List.mem_singleton_self _)).asWord
        have fails (detail : Text) :
            (Dialogue.fail (.parameterUnset name detail) : Dialogue Text).Follows Walk.stay :=
          Dialogue.follows_fail _ _
        have follows := expanded.bind fails
        rw [Walk.andThen_stay] at follows
        exact follows
      · exact fun value => Dialogue.follows_answer value
  | remove side longest pattern =>
      have removed (value : Text) :=
        (words pattern (List.mem_singleton_self _)).asPattern.map fun pieces =>
          Glob.remove side longest (Glob.compile pieces) value
      apply Dialogue.Follows.ask
      · exact removed []
      · exact removed
  | replace scope pattern replacement =>
      have replaced (value : Text) :=
        (words pattern (by simp [Operation.words])).asWord.bind fun expanded =>
          (words replacement (by simp [Operation.words])).asWord.map fun other =>
            replace scope expanded other value
      apply Dialogue.Follows.ask
      · exact replaced []
      · exact replaced

theorem followsWalk (word : Word) :
    FollowsWalk word := by
  induction word using word_induction with
  | step word ih =>
  apply FollowsWalk.of_parts
  intro part member
  cases part with
  | literal text => exact Dialogue.follows_answer text
  | escaped text => exact Dialogue.follows_answer text
  | expansion name operation raw =>
      exact follows_expandOperation (ih name operation raw member) name raw

theorem Run.Follows.sublist
    {State Value : Type} {run : Run State Value} {walk : Walk} {names : List Name}
    (follows : run.Follows walk)
    (within : walk.Within names) :
    run.asked.Sublist names := by
  cases outcome : run.outcome with
  | error failure =>
      simp only [Run.Follows, outcome] at follows
      exact follows.sublist.trans (within.sublist _)
  | ok value =>
      simp only [Run.Follows, outcome] at follows
      have passed := within.sublist (run.answers ++ [])
      rwa [follows] at passed

/--
The names of a template are walked in the order in which they are written, all of them if nothing is
known of the variables.  What a run learns about their presence cuts out the words that are not
needed.  A run that succeeds asks for exactly the names that are left, one for each of its answers; a
run that fails asks for the first of the names that are left by the answers up to the failure.  In
both cases each expansion is looked up at most once, in order, and nothing else is: whatever the
source replies, it is not called with a name that is not written in the template.
-/
theorem asked_of_expand
    {State : Type}
    (template : Template)
    (mode : Mode)
    (source : Source State)
    (state : State) :
    let run := template.expand mode source state
    let needed := wordWalk template.word
    (template.expand mode source.logged ([], state)).state = (run.asked, run.state) ∧
    needed [] = (wordNames template.word, []) ∧
    (∀ text, run.outcome = .ok text → needed run.answers = (run.asked, [])) ∧
    (∀ failure, run.outcome = .error failure → run.asked <+: (needed run.answers).1) ∧
    run.asked.Sublist (wordNames template.word) ∧
    ∃ visited,
      visited.Sublist (wordExpansions template.word) ∧
        List.Forall₂ IsAskedAt visited run.questions := by
  intro run needed
  have follows : run.Follows needed :=
    (followsWalk template.word).asWord State mode source state
  have within := within_wordWalk template.word
  refine ⟨?_, within.whole, ?_, ?_, follows.sublist within, ?_⟩
  · rw [Template.expand, Dialogue.run_logged]
    rfl
  · intro text succeeded
    simp only [Run.Follows, succeeded] at follows
    simpa using follows []
  · intro failure failed
    simp only [Run.Follows, failed] at follows
    exact follows
  · exact (isConfined template.word).asks.questions mode source state

end ParameterExpansion.Expansion
