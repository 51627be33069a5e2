import ParameterExpansion.Proofs.Expansion.Concatenation
import ParameterExpansion.Proofs.Template.Reparsing

/-!
# Templates that cannot fail

Expanding a parsed template fails for want of a variable, with a message that the template gives, or
at a negative length, and for no other reason.  Values and patterns never make it fail: they may be
empty, too short for an offset, or not well formed as patterns.  A template in which no expansion has
a message or a negative length is therefore always expanded, unless variables are insisted on and one
is not set.
-/

namespace ParameterExpansion.Template

/-- An expansion may fail because of its operation, and not only because of the words in it. -/
def Operation.mayFail {Word : Type} : Operation Word → Bool
  | .orFail _ | .orFailWith _ _ => true
  | .substring _ (some count) => count < 0
  | _ => false

/-- Expanding the part may fail because of its own operation. -/
def Part.mayFail : Part → Bool
  | .expansion _ operation _ => operation.mayFail
  | _ => false

theorem Part.Raises.mayFail
    {part : Part} {failure : Failure}
    (raises : part.Raises failure) :
    part.mayFail = true := by
  cases raises with
  | orFail name colon raw => rfl
  | orFailWith name colon message raw detail => rfl
  | substring name offset raw negative => exact decide_eq_true negative

/-- A parsed template keeps its text beside the word that the text is parsed as. -/
theorem parse_eq_ok_iff
    {limits : Limits} {text : Text} {template : Template} :
    parse limits text = .ok template ↔
      template.source = text ∧ parseText limits text = .ok template.word := by
  rcases template with ⟨source, word⟩
  rw [parse]
  cases parseText limits text with
  | error failure => simp [Except.map]
  | ok other => simp [Except.map, eq_comm]

/-- The length of a substring in a parsed template is a number that can be written. -/
theorem isReadable_of_mem_wordExpansions
    {limits : Limits} {text raw : Text} {word : Word} {name : Name} {offset length : Int}
    (parsed : parseText limits text = .ok word)
    (member : .expansion name (.substring offset (some length)) raw ∈ wordExpansions word) :
    IsReadable length := by
  rcases parseText_eq_ok_iff.mp parsed with ⟨_, parsedWord⟩
  rcases exists_body_of_mem_wordExpansions parsedWord member with
    ⟨body, _, balanced, _, _, _, _, parsedBody⟩
  rcases parseBody_eq_ok_iff.mp parsedBody with ⟨_, source, operation, read, related, same⟩
  cases same
  cases related with
  | substring offset length? =>
      rcases isFragmented_of_readBody read balanced with ⟨_, ⟨_, readable⟩, _⟩
      exact readable length rfl

end ParameterExpansion.Template

namespace ParameterExpansion.Expansion

open Template

/-- If the source has every variable, every question of a run is answered with a value. -/
theorem Dialogue.isSet_of_mem_questions
    {State Value : Type} {mode : Mode} {source : Source State} {dialogue : Dialogue Value}
    {state : State} {question : Question}
    (hasAll : ∀ name state, (source name state).1.isSet = true)
    (asked : question ∈ (dialogue.run mode source state).questions) :
    question.isSet = true := by
  induction dialogue generalizing state with
  | answer value => simp at asked
  | fail failure => simp at asked
  | ask name mandatory resume ih =>
      have isSet := hasAll name state
      rcases replies : source name state with ⟨reply, left⟩
      rw [replies] at isSet
      rcases stops_or_goesOn mode ⟨name, mandatory, reply.isSet⟩ with ⟨rfl, unmet⟩ | goesOn
      · rw [run_ask_of_stops replies unmet] at asked
        rcases List.mem_singleton.mp asked with rfl
        exact isSet
      · rw [run_ask_of_goesOn replies goesOn] at asked
        rcases List.mem_cons.mp asked with rfl | later
        · exact isSet
        · exact ih reply.value? later

/--
Expanding the word may fail in this way.  Only a strict run fails for want of a variable, at an
expansion that insists on it.  A parameter is not set where the operation gives a message for that,
and an invalid expansion has a negative length, which can be written.
-/
def MayFailWith (mode : Mode) (word : Word) : Failure → Prop
  | .variableNotSet name detail =>
      mode = .strict ∧ detail = [] ∧
        ∃ operation raw, .expansion name operation raw ∈ wordExpansions word ∧
          operation.insists = true
  | .parameterUnset name _ =>
      ∃ operation raw, .expansion name operation raw ∈ wordExpansions word ∧
        ∃ colon, operation = .orFail colon ∨ ∃ message, operation = .orFailWith colon message
  | .invalid raw (.negativeLength length) =>
      length < 0 ∧ IsReadable length ∧
        ∃ name offset, .expansion name (.substring offset (some length)) raw ∈ wordExpansions word
  | _ => False

/-- A run of a parsed template fails in one of these ways. -/
theorem mayFailWith_of_run
    {State : Type} {limits : Limits} {text : Text} {word : Word} {mode : Mode}
    {source : Source State} {state : State} {failure : Failure}
    (parsed : parseText limits text = .ok word)
    (failed : ((expandWord word).run mode source state).outcome = .error failure) :
    MayFailWith mode word failure := by
  have confined := isConfined word
  rcases confined.fails.of_run failed with
    ⟨part, member, raises⟩ | ⟨isStrict, question, asked, unmet, rfl⟩
  · cases raises with
    | orFail name colon raw => exact ⟨_, raw, member, colon, Or.inl rfl⟩
    | orFailWith name colon message raw detail =>
        exact ⟨_, raw, member, colon, Or.inr ⟨message, rfl⟩⟩
    | substring name offset raw negative =>
        exact ⟨negative, isReadable_of_mem_wordExpansions parsed member, name, offset, member⟩
  · rcases confined.asks.exists_isAskedAt asked with ⟨_, member, operation, raw, rfl, mandatory⟩
    refine ⟨isStrict, rfl, operation, raw, member, ?_⟩
    rw [← mandatory]
    exact (Bool.and_eq_true_iff.mp unmet).1

/-- A run at which no expansion may fail succeeds, unless it is strict and a variable is not set. -/
theorem exists_outcome_eq_ok_of_run
    {State : Type} {word : Word} {mode : Mode} {source : Source State}
    (harmless : ∀ part ∈ wordExpansions word, part.mayFail = false)
    (allows : mode = .strict → ∀ name state, (source name state).1.isSet = true)
    (state : State) :
    ∃ value, ((expandWord word).run mode source state).outcome = .ok value := by
  cases outcome : ((expandWord word).run mode source state).outcome with
  | ok value => exact ⟨value, rfl⟩
  | error failure =>
      rcases (isConfined word).fails.of_run outcome with
        ⟨part, member, raises⟩ | ⟨isStrict, question, asked, unmet, _⟩
      · have harmful := raises.mayFail
        rw [harmless part member] at harmful
        cases harmful
      · have isSet := Dialogue.isSet_of_mem_questions (allows isStrict) asked
        simp [Question.isUnmet, isSet] at unmet

/--
A parsed template in which no expansion, at any depth, has an operation that may fail gives a text,
whatever the source replies, and strictly if it has every variable.  Every parsed template fails only
strictly and for want of a variable, with a message for a parameter that is not set, or at a
substring with a negative length.
-/
theorem expand_succeeds_or_mayFailWith
    {State : Type} {limits : Limits} {text : Text} {template : Template}
    (parsed : Template.parse limits text = .ok template)
    (source : Source State)
    (state : State) :
    ((∀ part ∈ wordExpansions template.word, part.mayFail = false) →
      (∃ value, (template.expand .lenient source state).outcome = .ok value) ∧
        ((∀ name state, (source name state).1.isSet = true) →
          ∃ value, (template.expand .strict source state).outcome = .ok value)) ∧
    ∀ mode failure, (template.expand mode source state).outcome = .error failure →
      MayFailWith mode template.word failure := by
  constructor
  · intro harmless
    refine ⟨exists_outcome_eq_ok_of_run harmless (by simp) state, ?_⟩
    exact fun hasAll => exists_outcome_eq_ok_of_run harmless (fun _ => hasAll) state
  · intro mode failure failed
    exact mayFailWith_of_run (parse_eq_ok_iff.mp parsed).2 failed

/--
In `${a#[}${b: 3:2}` the bracket is never closed and the value may be shorter than the offset, but
neither makes expanding fail.  In `${b: 0:-2}` a value of one character does.
-/
theorem expand_succeeds_or_mayFailWith_short :
    let offset := enclose ['b', ':', ' ', '3', ':', '2']
    let tooShort := enclose ['b', ':', ' ', '0', ':', '-', '2']
    let harmless : Template :=
      ⟨enclose ['a', '#', '['] ++ offset,
        [.expansion ['a'] (.remove .leading false [.literal ['[']]) (enclose ['a', '#', '[']),
          .expansion ['b'] (.substring 3 (some 2)) offset]⟩
    let harmful : Template := ⟨tooShort, [.expansion ['b'] (.substring 0 (some (-2))) tooShort]⟩
    let source : Source Unit := .stateless fun _ => ⟨['x'], true⟩
    (∃ value, (harmless.expand .strict source ()).outcome = .ok value) ∧
      MayFailWith .lenient harmful.word (.invalid tooShort (.negativeLength (-2))) := by
  intro offset tooShort harmless harmful source
  have normal : NormalWord .top harmless.word ∧ NormalWord .top harmful.word := by
    have names : IsName ['a'] ∧ IsName ['b'] := by decide
    have readable : IsReadable 0 ∧ IsReadable 2 ∧ IsReadable 3 ∧ IsReadable (-2) := by decide
    simp [harmless, harmful, NormalWord, NormalPart, NormalOperation, Operation.IsDistinct,
      Place.Allows, Part.isLiteral, StartsWith, Part.startsWith, sideSign, names, readable]
  have harmlessWord : parseText {} (enclose ['a', '#', '['] ++ offset) = .ok harmless.word :=
    parseText_eq_ok_iff.mpr ⟨by decide, parseWord_printWord normal.1 (by decide)⟩
  have harmfulWord : parseText {} tooShort = .ok harmful.word :=
    parseText_eq_ok_iff.mpr ⟨by decide, parseWord_printWord normal.2 (by decide)⟩
  have harmlessParsed : Template.parse {} harmless.source = .ok harmless :=
    parse_eq_ok_iff.mpr ⟨rfl, harmlessWord⟩
  have harmfulParsed : Template.parse {} harmful.source = .ok harmful :=
    parse_eq_ok_iff.mpr ⟨rfl, harmfulWord⟩
  have succeeds := (expand_succeeds_or_mayFailWith harmlessParsed source ()).1
  have mayFail := (expand_succeeds_or_mayFailWith harmfulParsed source ()).2
  exact ⟨(succeeds (by decide)).2 fun _ _ => rfl, mayFail .lenient _ rfl⟩

end ParameterExpansion.Expansion
