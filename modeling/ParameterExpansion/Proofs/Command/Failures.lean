import ParameterExpansion.Proofs.Command.Running
import ParameterExpansion.Proofs.Expansion.WrittenExpansion
import ParameterExpansion.Proofs.Template.Digits
import ParameterExpansion.Proofs.Template.Rejection

/-!
# Failures of expansion

Whatever the template, the variables, the mode and the limits are, expanding gives a text or fails.
A failure is about the template or about a variable, unless it is about digits.  A number in the
template may have more digits than are read; it need not be large, since zeros in front are digits
too.  Or a limit that the template exceeds may have more digits than are written, and then it cannot
be named.  Failures of both kinds come before any variable is asked for.  The command, whose limits
can be written, answers all other failures with a message and the exit status 1, and is aborted by a
number with too many digits.

All of this is about a host with room for as many levels of expansions as the nesting limit allows.
-/

namespace ParameterExpansion.Template

/-! ## Numbers with too many digits -/

/-- An offset with more digits than are read makes the operation fail, whatever its value is. -/
theorem readOperation_of_maximumDigits_lt
    {digits : Text}
    (isDigit : ∀ c ∈ digits, Character.isDigit c = true)
    (many : maximumDigits < digits.length)
    (expansion : Text) :
    readOperation expansion (':' :: digits) = .error (.numberTooLong digits.length) := by
  have noColon : ':' ∉ digits := fun member => absurd (isDigit ':' member) (by decide)
  have nonempty : digits ≠ [] := by
    rintro rfl
    exact Nat.not_lt_zero _ many
  have unsigned : ∀ c ∈ digits.head?, c ∉ ['=', '-', '+', '?'] := by
    intro c first sign
    have digit := isDigit c (List.mem_of_mem_head? first)
    simp only [List.mem_cons, List.not_mem_nil, or_false] at sign
    rcases sign with rfl | rfl | rfl | rfl
    all_goals exact absurd digit (by decide)
  rw [readOperation_colon nonempty unsigned]
  exact (readSubstring_eq_error_iff (.whole noColon)).mpr
    (.offset (failsAs_of_maximumDigits_lt isDigit many expansion))

/-- A template that is a substring with such an offset cannot be parsed. -/
theorem parseText_of_maximumDigits_lt
    {limits : Limits} {name : Name} {digits : Text}
    (isName : IsName name)
    (isDigit : ∀ c ∈ digits, Character.isDigit c = true)
    (many : maximumDigits < digits.length)
    (nests : 0 ≤ limits.nesting)
    (fits : (enclose (name ++ ':' :: digits)).length ≤ limits.size) :
    parseText limits (enclose (name ++ ':' :: digits)) =
      .error (.numberTooLong digits.length) := by
  have balanced : Balanced (name ++ ':' :: digits) := by
    apply Balanced.append_ordinary fun c => isName.isOrdinary
    apply balanced_of_isOrdinary
    rw [List.forall_mem_cons]
    refine ⟨by decide, fun c member => ?_⟩
    exact IsOrdinary.of_class (by decide) (by decide) (by decide) (isDigit c member)
  have ends : ∀ c ∈ (':' :: digits).head?, continuesName c = false := by
    rintro c ⟨⟩
    decide
  have failed : readBody (name ++ ':' :: digits) = .error (.numberTooLong digits.length) := by
    rw [readBody_append isName ends, readOperation_of_maximumDigits_lt isDigit many]
    rfl
  exact parseText_enclose_eq_error balanced failed nests fits

/-! ## Kinds of failure -/

/--
The failure is about the digits of a number, and not about a template or a variable: the template
holds a number with more digits than are read, or a limit has more than are written.
-/
def IsDigitFailure (limits : Limits) (text : Text) (failure : Failure) : Prop :=
  IsNumberTooLong text failure ∨
    failure = .numberUnwritable ∧ ¬ (IsReadable limits.nesting ∧ IsReadable limits.size)

theorem isExpansionFailure_or_isDigitFailure_ofExcess
    {limits : Limits} {text : Text} {excess : Excess}
    (isWritable : IsReadable limits.nesting ∧ IsReadable limits.size → excess.IsWritable) :
    (Failure.ofExcess excess).isExpansionFailure = true ∨
      IsDigitFailure limits text (.ofExcess excess) := by
  rcases Failure.ofExcess_cases excess with ⟨_, made⟩ | ⟨unwritable, made⟩
  · rw [made]
    exact Or.inl rfl
  · exact Or.inr (Or.inr ⟨made, fun readable => unwritable (isWritable readable)⟩)

theorem isExpansionFailure_or_isDigitFailure_of_parseText
    {limits : Limits} {text : Text} {failure : Failure}
    (failed : parseText limits text = .error failure) :
    failure.isExpansionFailure = true ∨ IsDigitFailure limits text failure := by
  rcases cases_of_parseText_eq_error failed with
    rfl | rfl | unclosed | ⟨body, _, stands, ⟨fault, rfl⟩ | tooLong⟩
  · exact isExpansionFailure_or_isDigitFailure_ofExcess fun readable => readable.2
  · exact isExpansionFailure_or_isDigitFailure_ofExcess fun readable => readable.1
  · rcases exists_unterminated_of_scan unclosed with ⟨rest, place, rfl⟩
    exact Or.inl rfl
  · exact Or.inl rfl
  · exact Or.inr (Or.inl (tooLong.of_isInfix ((isInfix_enclose body).trans stands)))

theorem Part.Raises.isExpansionFailure
    {part : Part} {failure : Failure}
    (raises : part.Raises failure) :
    failure.isExpansionFailure = true := by
  cases raises <;> rfl

end ParameterExpansion.Template

namespace ParameterExpansion.Expansion

open Template

/-- A parsed word fails only in ways that are about the template or a variable. -/
theorem isExpansionFailure_of_run_expandWord
    {State : Type} {word : Word} {mode : Mode} {source : Source State} {state : State}
    {failure : Failure}
    (failed : ((expandWord word).run mode source state).outcome = .error failure) :
    failure.isExpansionFailure = true := by
  rcases (isConfined word).fails.of_run failed with
    ⟨part, _, raises⟩ | ⟨_, question, _, _, rfl⟩
  · exact raises.isExpansionFailure
  · rfl

theorem isExpansionFailure_or_isDigitFailure_of_expand
    {State : Type} {limits : Limits} {mode : Mode} {source : Source State} {text : Text}
    {state : State} {failure : Failure}
    (failed : (expand limits mode source text state).outcome = .error failure) :
    failure.isExpansionFailure = true ∨
      IsDigitFailure limits text failure ∧
        expand limits mode source text state = ⟨.error failure, [], state⟩ := by
  cases parsed : parseText limits text with
  | ok word =>
      rw [expand_of_parseText_eq_ok parsed] at failed
      exact Or.inl (isExpansionFailure_of_run_expandWord failed)
  | error other =>
      have run := expand_of_parseText_eq_error parsed mode source state
      rw [run] at failed
      cases failed
      exact (isExpansionFailure_or_isDigitFailure_of_parseText parsed).imp_right
        fun digits => ⟨digits, run⟩

end ParameterExpansion.Expansion

namespace ParameterExpansion.Command

open Expansion Template

/-! ## The command -/


/--
Expanding a template, whatever the variables, the mode and the limits are, fails only for reasons
that are about the template or a variable, unless the digits of one number in the template are more
than are read or those of a limit are more than are written; then nothing was asked.  On any file
system, the command answers every failure of the first kind with the exit status 1 and a message, in
front of which there is diagnostic output only if it is wanted, and leaves the files alone; it is
aborted by a failure of the second kind.
-/
theorem failures_of_expand_and_carryOut
    {State Files File : Type}
    (limits : Limits)
    (mode : Mode)
    (source : Source State)
    (text : Text)
    (state : State)
    (fileSystem : FileSystem Files File)
    (settings : Settings)
    (environment : Variables)
    (stdin : Except Text (List UInt8))
    (files : Files) :
    (∀ failure, (expand limits mode source text state).outcome = .error failure →
      failure.isExpansionFailure = true ∨
        IsDigitFailure limits text failure ∧
          expand limits mode source text state = ⟨.error failure, [], state⟩) ∧
    ∀ given failure,
      settings.given = .ok given →
      fileSystem.template stdin settings files = .ok text →
      expandWith {} settings.mode (settings.variables environment given) text = .error failure →
        let ran := ((fileSystem.host environment stdin).carryOut settings).run { files }
        ∃ log, (settings.verbose = false → log = []) ∧
          (ran = (.ok 1, { files, stderr := log ++ complaint failure.message }) ∨
            IsNumberTooLong text failure ∧
              ran = (.error (.failure failure), { files, stderr := log })) := by
  refine ⟨fun _ => isExpansionFailure_or_isDigitFailure_of_expand, ?_⟩
  intro given failure isGiven read failed ran
  have carried : ran = _ :=
    (FileSystem.run_carryOut_of_read isGiven read).trans
      (FileSystem.run_expandAndDeliver_of_failed failed _)
  by_cases isExpansion : failure.isExpansionFailure = true
  · refine ⟨settings.logStart ++ settings.logReading ++ settings.logFailure failure, ?_,
      Or.inl ?_⟩
    · intro quiet
      rw [logStart_of_not_verbose quiet, logReading_of_not_verbose quiet, Settings.logFailure,
        log_of_not_verbose quiet]
      rfl
    · rw [carried, haltOf, if_pos isExpansion, List.append_assoc]
      rfl
  · have tooLong : IsNumberTooLong text failure := by
      rcases isExpansionFailure_or_isDigitFailure_of_expand failed with
        own | ⟨tooLong | ⟨_, unreadable⟩, _⟩
      · exact (isExpansion own).elim
      · exact tooLong
      · exact absurd (by decide) unreadable
    refine ⟨settings.logStart ++ settings.logReading, ?_, Or.inr ⟨tooLong, ?_⟩⟩
    · intro quiet
      rw [logStart_of_not_verbose quiet, logReading_of_not_verbose quiet]
      rfl
    · rw [carried, haltOf, if_neg isExpansion]
      rfl

/-- The command, given `${x?}` and no variables, says that the parameter is not set. -/
theorem failures_of_expand_and_carryOut_unset :
    let settings : Settings := { ignoreEnvironment := true }
    let stdin : Except Text (List UInt8) := .ok [0x24, 0x7B, 0x78, 0x3F, 0x7D]
    let failure := Failure.parameterUnset ['x'] []
    FileSystem.directory.template stdin settings {} = .ok (enclose ['x', '?']) ∧
    expandWith {} .lenient {} (enclose ['x', '?']) = .error failure ∧
    failure.isExpansionFailure = true ∧
    ((FileSystem.directory.host {} stdin).carryOut settings).run { files := {} } =
      (.ok 1, { files := {}, stderr := "envsubst: x: parameter not set\n".toList }) := by
  intro settings stdin failure
  have isGiven : settings.given = .ok {} := rfl
  have read : FileSystem.directory.template stdin settings {} = .ok (enclose ['x', '?']) := by
    rfl
  have failed : expandWith {} .lenient {} (enclose ['x', '?']) = .error failure := by
    have isName : IsName ['x'] := by decide
    show (expand {} .lenient (Store.asSource {})
      (enclose (writeBody ['x'] (.orFail false))) ()).outcome = _
    exact outcome_expand_orFail isName (by decide) (by decide) rfl
  rcases failures_of_expand_and_carryOut {} .lenient (Store.asSource {}) (enclose ['x', '?']) ()
    FileSystem.directory settings {} stdin {} with ⟨expanding, carrying⟩
  refine ⟨read, failed, ?_, ?_⟩
  · rcases expanding failure failed with own | ⟨⟨digits, other, _⟩ | ⟨other, _⟩, _⟩
    · exact own
    · simp [failure] at other
    · simp [failure] at other
  · rcases carrying {} failure isGiven read failed with
      ⟨log, quiet, answered | ⟨⟨digits, other, _⟩, _⟩⟩
    · rw [answered, quiet rfl]
      rfl
    · simp [failure] at other

/-- The offset of `${x:000…}` is zero, and with 4301 zeros it has too many digits to be read. -/
theorem expandWith_longZero :
    let text := enclose (['x'] ++ ':' :: List.replicate 4301 '0')
    let failure := Failure.numberTooLong 4301
    expandWith {} .lenient ⟨[(['x'], ['v'])]⟩ text = .error failure ∧
      failure.isExpansionFailure = false := by
  intro text failure
  have zeros : ∀ c ∈ List.replicate 4301 '0', Character.isDigit c = true := by
    intro c member
    rw [List.eq_of_mem_replicate member]
    decide
  have parsed : parseText {} text = .error failure := by
    have many : maximumDigits < (List.replicate 4301 '0').length := by
      rw [List.length_replicate]
      decide
    have size : text.length = 4306 := by
      simp only [text, enclose, List.length_append, List.length_cons, List.length_nil,
        List.length_replicate]
    have fits : (text.length : Int) ≤ ({} : Limits).size := by
      rw [size]
      decide
    have failed :=
      parseText_of_maximumDigits_lt (by decide : IsName ['x']) zeros many (by decide) fits
    rwa [List.length_replicate] at failed
  rw [expandWith, expand_of_parseText_eq_error parsed]
  exact ⟨rfl, rfl⟩

end ParameterExpansion.Command
