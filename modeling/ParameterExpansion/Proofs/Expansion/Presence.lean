import ParameterExpansion.Proofs.Expansion.Words
import ParameterExpansion.Template

/-!
# Presence decides, values do not

Values flow into patterns, replacements and messages, but no value decides which variable is asked
for next.  So two runs of one template, against sources that set the same variables to whatever
values, ask for the same variables in the same order and end alike.  The exception is a substring
whose length ends before its offset in one of the two values: that run is cut off there, and what it
has asked for by then is what the other run asks for first.
-/

namespace ParameterExpansion.Expansion

open Template

/-! ## Dialogues that differ in values -/

/--
Side by side, the two dialogues ask for the same variables and end alike, whatever the values of the
variables that are set, as long as neither finds an expansion invalid.
-/
inductive Parallel {Value : Type} : Dialogue Value → Dialogue Value → Prop where
  | answer (value value' : Value) : Parallel (.answer value) (.answer value')
  | parameterUnset (name : Name) (detail detail' : Text) :
      Parallel (.fail (.parameterUnset name detail)) (.fail (.parameterUnset name detail'))
  | cut (raw : Text) (fault : Fault) (dialogue : Dialogue Value) :
      Parallel (.fail (.invalid raw fault)) dialogue
  | cut' (raw : Text) (fault : Fault) (dialogue : Dialogue Value) :
      Parallel dialogue (.fail (.invalid raw fault))
  | ask (name : Name) (mandatory : Bool) {resume resume' : Option Text → Dialogue Value}
      (absent : Parallel (resume none) (resume' none))
      (present : ∀ value value', Parallel (resume (some value)) (resume' (some value'))) :
      Parallel (.ask name mandatory resume) (.ask name mandatory resume')

namespace Parallel

variable {Value Result : Type}

theorem bind
    {dialogue dialogue' : Dialogue Value} {next next' : Value → Dialogue Result}
    (parallel : Parallel dialogue dialogue')
    (nextParallel : ∀ value value', Parallel (next value) (next' value')) :
    Parallel (dialogue >>= next) (dialogue' >>= next') := by
  induction parallel with
  | answer value value' => exact nextParallel value value'
  | parameterUnset name detail detail' => exact parameterUnset name detail detail'
  | cut raw fault dialogue => exact cut raw fault (dialogue >>= next')
  | cut' raw fault dialogue => exact cut' raw fault (dialogue >>= next)
  | ask name mandatory absent present ihAbsent ihPresent =>
      exact ask name mandatory ihAbsent ihPresent

theorem map
    {dialogue dialogue' : Dialogue Value}
    (parallel : Parallel dialogue dialogue')
    (change change' : Value → Result) :
    Parallel (change <$> dialogue) (change' <$> dialogue') := by
  rw [← bind_pure_comp, ← bind_pure_comp]
  exact parallel.bind fun value value' => answer (change value) (change' value')

theorem mapM
    {Item : Type} {step : Item → Dialogue Value} {items : List Item}
    (parallel : ∀ item ∈ items, Parallel (step item) (step item)) :
    Parallel (items.mapM step) (items.mapM step) := by
  induction items with
  | nil => exact answer [] []
  | cons item items ih =>
      rcases List.forall_mem_cons.mp parallel with ⟨first, others⟩
      rw [List.mapM_cons]
      exact first.bind fun value value' => (ih others).map (value :: ·) (value' :: ·)

end Parallel

/-- The dialogues of a word, expanded as a word or as a pattern, differ in values only. -/
structure IgnoresValues (word : Word) : Prop where
  asWord : Parallel (expandWord word) (expandWord word)
  asPattern : Parallel (expandPattern word) (expandPattern word)

theorem IgnoresValues.of_parts
    {word : Word}
    (parallel : ∀ part ∈ word, Parallel (expandPart part) (expandPart part)) :
    IgnoresValues word := by
  constructor
  · rw [expandWord_eq]
    exact (Parallel.mapM parallel).map List.flatten List.flatten
  · rw [expandPattern_eq]
    exact Parallel.mapM fun part member => (parallel part member).map _ _

/-- The substrings of two values are alike, or one of the values is too short for a substring. -/
theorem parallel_substring
    (raw value value' : Text)
    (offset : Int)
    (length? : Option Int) :
    let ends (value : Text) : Dialogue Text :=
      match substring value offset length? with
      | .ok text => .answer text
      | .error fault => .fail (.invalid raw fault)
    Parallel (ends value) (ends value') := by
  intro ends
  simp only [ends]
  -- Here a value decides something, and it can only end the run.
  cases substring value offset length? with
  | error fault => exact Parallel.cut raw fault _
  | ok text =>
      cases substring value' offset length? with
      | error fault => exact Parallel.cut' raw fault _
      | ok text' => exact Parallel.answer text text'

/-- An operation passes the value on to its words, or to a substring, and asks no more for it. -/
theorem parallel_expandOperation
    {operation : Operation (List Part)}
    (ignores : ∀ word ∈ operation.words, IgnoresValues word)
    (name : Name)
    (raw : Text) :
    Parallel (expandOperation name raw operation) (expandOperation name raw operation) := by
  cases operation with
  | value | length | changeCase =>
      apply Parallel.ask
      · exact Parallel.answer _ _
      · exact fun value value' => Parallel.answer _ _
  | substring offset length? =>
      apply Parallel.ask
      · exact parallel_substring raw [] [] offset length?
      · exact fun value value' => parallel_substring raw value value' offset length?
  | fallback colon sign word =>
      apply Parallel.ask
      · exact (ignores word (List.mem_singleton_self _)).asWord
      · exact fun value value' => Parallel.answer value value'
  | alternative colon word =>
      apply Parallel.ask
      · exact Parallel.answer [] []
      · exact fun _ _ => (ignores word (List.mem_singleton_self _)).asWord
  | orFail colon =>
      apply Parallel.ask
      · exact Parallel.parameterUnset name [] []
      · exact fun value value' => Parallel.answer value value'
  | orFailWith colon message =>
      apply Parallel.ask
      · exact (ignores message (List.mem_singleton_self _)).asWord.bind
          fun detail detail' => Parallel.parameterUnset name detail detail'
      · exact fun value value' => Parallel.answer value value'
  | remove side longest pattern =>
      have removed (value value' : Text) :=
        (ignores pattern (List.mem_singleton_self _)).asPattern.map
          (fun pieces => Glob.remove side longest (Glob.compile pieces) value)
          (fun pieces => Glob.remove side longest (Glob.compile pieces) value')
      apply Parallel.ask
      · exact removed [] []
      · exact removed
  | replace scope pattern replacement =>
      have replaced (value value' : Text) :=
        (ignores pattern (by simp [Operation.words])).asWord.bind fun expanded expanded' =>
          (ignores replacement (by simp [Operation.words])).asWord.map
            (fun other => replace scope expanded other value)
            (fun other => replace scope expanded' other value')
      apply Parallel.ask
      · exact replaced [] []
      · exact replaced

theorem ignoresValues (word : Word) :
    IgnoresValues word := by
  induction word using word_induction with
  | step word ih =>
  apply IgnoresValues.of_parts
  intro part member
  cases part with
  | literal text => exact Parallel.answer text text
  | escaped text => exact Parallel.answer text text
  | expansion name operation raw =>
      exact parallel_expandOperation (ih name operation raw member) name raw

/-! ## Runs side by side -/

/-- The run is cut off at an expansion that is invalid for the value it is given. -/
def Run.IsCut {State Value : Type} (run : Run State Value) : Prop :=
  ∃ raw fault, run.outcome = .error (.invalid raw fault)

/-- Two runs end alike: both succeed, or both fail for the same variable and for the same reason. -/
inductive EndsAlike {Value : Type} : Except Failure Value → Except Failure Value → Prop where
  | succeed (value value' : Value) : EndsAlike (.ok value) (.ok value')
  | variableNotSet (name : Name) :
      EndsAlike (.error (.variableNotSet name [])) (.error (.variableNotSet name []))
  | parameterUnset (name : Name) (detail detail' : Text) :
      EndsAlike (.error (.parameterUnset name detail)) (.error (.parameterUnset name detail'))

/-- Two runs ask the same and end alike, or one is cut off and asks what the other asks first. -/
inductive Run.IsAlike {State State' Value : Type}
    (run : Run State Value) (run' : Run State' Value) : Prop where
  | ends (asked : run.questions = run'.questions) (alike : EndsAlike run.outcome run'.outcome)
  | cut (isCut : run.IsCut) (isFront : run.questions <+: run'.questions)
  | cut' (isCut : run'.IsCut) (isFront : run'.questions <+: run.questions)

theorem Run.IsAlike.ask
    {State State' Value : Type} {run : Run State Value} {run' : Run State' Value}
    (alike : run.IsAlike run')
    (question : Question) :
    ({ run with questions := question :: run.questions } : Run State Value).IsAlike
      ({ run' with questions := question :: run'.questions } : Run State' Value) := by
  cases alike with
  | ends asked alike => exact ends (congrArg (question :: ·) asked) alike
  | cut isCut isFront => exact cut isCut ((List.prefix_cons_inj question).mpr isFront)
  | cut' isCut isFront => exact cut' isCut ((List.prefix_cons_inj question).mpr isFront)

/-- From related states on, the two sources agree about which variables are set. -/
def SetAlike {State State' : Type} (related : State → State' → Prop)
    (source : Source State) (source' : Source State') : Prop :=
  ∀ name state state', related state state' →
    (source name state).1.isSet = (source' name state').1.isSet ∧
      related (source name state).2 (source' name state').2

/-- Parallel dialogues run alike against sources that agree about which variables are set. -/
theorem Parallel.run
    {State State' Value : Type} {related : State → State' → Prop}
    {source : Source State} {source' : Source State'} {dialogue dialogue' : Dialogue Value}
    {state : State} {state' : State'}
    (parallel : Parallel dialogue dialogue')
    (mode : Mode)
    (sources : SetAlike related source source')
    (states : related state state') :
    (dialogue.run mode source state).IsAlike (dialogue'.run mode source' state') := by
  induction parallel generalizing state state' with
  | answer value value' => exact Run.IsAlike.ends rfl (EndsAlike.succeed value value')
  | parameterUnset name detail detail' =>
      exact Run.IsAlike.ends rfl (EndsAlike.parameterUnset name detail detail')
  | cut raw fault dialogue => exact Run.IsAlike.cut ⟨raw, fault, rfl⟩ List.nil_prefix
  | cut' raw fault dialogue => exact Run.IsAlike.cut' ⟨raw, fault, rfl⟩ List.nil_prefix
  | @ask name mandatory resume resume' absent present ihAbsent ihPresent =>
      rcases replies : source name state with ⟨reply, left⟩
      rcases replies' : source' name state' with ⟨reply', left'⟩
      have agreed := sources name state state' states
      rw [replies, replies'] at agreed
      rcases agreed with ⟨isSet, lefts⟩
      dsimp only at isSet lefts
      rcases Dialogue.stops_or_goesOn mode ⟨name, mandatory, reply.isSet⟩ with
        ⟨rfl, unmet⟩ | goesOn
      · rw [Dialogue.run_ask_of_stops replies unmet,
          Dialogue.run_ask_of_stops replies' (isSet ▸ unmet)]
        exact Run.IsAlike.ends (by rw [isSet]) (EndsAlike.variableNotSet name)
      · rw [Dialogue.run_ask_of_goesOn replies goesOn,
          Dialogue.run_ask_of_goesOn replies' (isSet ▸ goesOn), ← isSet]
        apply Run.IsAlike.ask
        unfold Reply.value?
        rw [← isSet]
        cases reply.isSet with
        | false => exact ihAbsent lefts
        | true => exact ihPresent reply.text reply'.text lefts

/--
Which variables a template asks for depends on which are set and never on their values.  If neither
of two runs against stores with the same names is cut off at an invalid expansion, both ask for the
same variables in the same order and end alike.  If one is cut off, what one of them asks for is what
the other asks for first; if the other is not cut off, it is the one that asks for more.
-/
theorem asked_of_sameNames
    (template : Template)
    (mode : Mode)
    (bindings bindings' : Variables)
    (sameNames : ∀ name, (bindings.get? name).isSome = (bindings'.get? name).isSome) :
    let run := template.expand mode bindings.asSource ()
    let run' := template.expand mode bindings'.asSource ()
    (¬ run.IsCut → ¬ run'.IsCut →
      run.asked = run'.asked ∧ EndsAlike run.outcome run'.outcome) ∧
    (run.IsCut ∨ run'.IsCut → run.asked <+: run'.asked ∨ run'.asked <+: run.asked) ∧
    (run.IsCut → ¬ run'.IsCut → run.asked <+: run'.asked) := by
  intro run run'
  -- Stores do not change, so nothing has to be kept of the states.
  have sources :
      SetAlike
        (fun _ _ => True)
        (bindings.asSource : Source Unit)
        (bindings'.asSource : Source Unit) := by
    intro name state state' _
    exact ⟨by simp [sameNames], True.intro⟩
  have alike : run.IsAlike run' :=
    (ignoresValues template.word).asWord.run mode sources True.intro
  cases alike with
  | ends asked alike =>
      have names : run.asked = run'.asked := congrArg (List.map Question.name) asked
      have isFront : run.asked <+: run'.asked := names ▸ List.prefix_rfl
      exact ⟨fun _ _ => ⟨names, alike⟩, fun _ => Or.inl isFront, fun _ _ => isFront⟩
  | cut isCut isFront =>
      have isFront : run.asked <+: run'.asked := isFront.map Question.name
      exact ⟨fun whole _ => (whole isCut).elim, fun _ => Or.inl isFront, fun _ _ => isFront⟩
  | cut' isCut isFront =>
      have isFront : run'.asked <+: run.asked := isFront.map Question.name
      exact
        ⟨fun _ whole => (whole isCut).elim, fun _ => Or.inr isFront, fun _ whole => (whole isCut).elim⟩

/-- In `${a:0:-2}${b}` the second variable is asked for unless the value of the first is too short. -/
theorem asked_of_sameNames_short :
    let first := enclose ['a', ':', '0', ':', '-', '2']
    let second := enclose ['b']
    let template : Template :=
      ⟨first ++ second,
        [.expansion ['a'] (.substring 0 (some (-2))) first, .expansion ['b'] .value second]⟩
    let run (value : Text) : Run Unit Text :=
      template.expand .strict (Store.asSource ⟨[(['a'], value)]⟩) ()
    (run ['x', 'y']).asked = [['a'], ['b']] ∧
      EndsAlike (run ['x', 'y']).outcome (run ['x', 'y', 'z']).outcome ∧
      (run ['x']).asked <+: (run ['x', 'y']).asked := by
  intro first second template run
  have sameNames (value value' : Text) (name : Name) :
      ((⟨[(['a'], value)]⟩ : Variables).get? name).isSome =
        ((⟨[(['a'], value')]⟩ : Variables).get? name).isSome := by
    simp only [Store.get?, List.lookup_cons]
    split <;> rfl
  have long : ¬ (run ['x', 'y']).IsCut := by
    rintro ⟨raw, fault, failed⟩
    cases failed
  have longer : ¬ (run ['x', 'y', 'z']).IsCut := by
    rintro ⟨raw, fault, failed⟩
    cases failed
  have short : (run ['x']).IsCut := ⟨_, _, rfl⟩
  rcases asked_of_sameNames _ .strict _ _ (sameNames ['x', 'y'] ['x', 'y', 'z']) with ⟨whole, _⟩
  rcases asked_of_sameNames _ .strict _ _ (sameNames ['x'] ['x', 'y']) with ⟨_, _, cut⟩
  exact ⟨rfl, (whole long longer).2, cut short long⟩

end ParameterExpansion.Expansion
