import ParameterExpansion.Proofs.Command.Running
import ParameterExpansion.Proofs.Template.WrittenBody

/-!
# Command lines

A command line is written from options, each short option that takes an argument with the argument
in the next word.  Reading it gives settings that depend on the order of the options only where one
takes the place of another: the last file counts, and variables are added in the order given.
-/

namespace ParameterExpansion.Command

open Expansion Template

/-! ## Options as they are written -/

/-- An option of a command line, with its argument. -/
inductive Choice where
  | strict
  | ignoreEnvironment
  | assignment (name : Name) (value : Text)
  | input (file : Text)
  | output (file : Text)
  deriving DecidableEq, Repr

namespace Choice

/-- The words of an option. -/
def words : Choice → List Text
  | strict => [['-', 's']]
  | ignoreEnvironment => ["--ignore-environment".toList]
  | assignment name value => [['-', 'e'], name ++ '=' :: value]
  | input file => [['-', 'i'], file]
  | output file => [['-', 'o'], file]

/-- The name of a file can be told from an option, and it holds no zero character. -/
def IsFileName (file : Text) : Prop :=
  file.head? ≠ some '-' ∧ '\x00' ∉ file

instance (file : Text) : Decidable (IsFileName file) :=
  inferInstanceAs (Decidable (_ ∧ _))

/-- The argument of an option is what the option asks for. -/
def IsProper : Choice → Prop
  | strict | ignoreEnvironment => True
  | assignment name _ => IsName name
  | input file | output file => IsFileName file

instance : DecidablePred IsProper
  | strict | ignoreEnvironment => inferInstanceAs (Decidable True)
  | assignment name _ => inferInstanceAs (Decidable (IsName name))
  | input file | output file => inferInstanceAs (Decidable (IsFileName file))

/-- The variable that an option gives. -/
def assignment? : Choice → Option (Name × Text)
  | assignment name value => some (name, value)
  | _ => none

/-- The input file that an option names. -/
def input? : Choice → Option Text
  | input file => some file
  | _ => none

/-- The output file that an option names. -/
def output? : Choice → Option Text
  | output file => some file
  | _ => none

end Choice

/-! ## Settings -/

/-- The file that a run is to read, if it is not to read standard input. -/
def inputFile? (choices : List Choice) : Option Text :=
  (choices.filterMap Choice.input?).getLast?

/-- The file that a run is to write, if it is not to write standard output. -/
def outputFile? (choices : List Choice) : Option Text :=
  (choices.filterMap Choice.output?).getLast?

/-- What options ask for together. -/
def settingsOf (choices : List Choice) : Settings where
  strict := choices.contains .strict
  assignments := (choices.filterMap Choice.assignment?).map .given
  ignoreEnvironment := choices.contains .ignoreEnvironment
  input? := (inputFile? choices).map fun file => .given (.ofText file)
  output? := (outputFile? choices).map fun file => .given (.ofText file)

/-- What one more option changes. -/
def Choice.apply (settings : Settings) : Choice → Settings
  | strict => { settings with strict := true }
  | ignoreEnvironment => { settings with ignoreEnvironment := true }
  | assignment name value => settings.assign (.given (name, value))
  | input file => { settings with input? := some (.given (.ofText file)) }
  | output file => { settings with output? := some (.given (.ofText file)) }

theorem foldl_apply (choices : List Choice) :
    choices.foldl Choice.apply {} = settingsOf choices := by
  induction choices using List.reverseRecOn with
  | nil => rfl
  | append_singleton choices choice ih =>
      rw [List.foldl_append, ih]
      cases choice <;>
        simp [settingsOf, inputFile?, outputFile?, Choice.apply, Choice.assignment?, Choice.input?,
          Choice.output?, Settings.assign]

/-! ## Reading -/

/-- The items that the words of an option are classified as. -/
def Choice.items : Choice → List Item
  | strict => [.switch .strict true none]
  | ignoreEnvironment => [.switch .ignoreEnvironment false none]
  | assignment name value => [.switch .env true none, .operand (name ++ '=' :: value)]
  | input file => [.switch .input true none, .operand file]
  | output file => [.switch .output true none, .operand file]

/-- A word that does not start with a dash is an operand. -/
theorem classify_cons_of_operand
    {word : Text}
    (operand : word.head? ≠ some '-')
    (rest : List Text) :
    classify (word :: rest) = (classify rest).map (.operand word :: ·) := by
  rw [classify]
  · cases classify rest <;> rfl
  · rintro rfl
    exact operand rfl
  · rintro c tail rfl
    exact operand rfl

/-- A word that starts with a dash and goes on, but is not two dashes, is looked up. -/
theorem classify_cons_of_classifyDashed
    {c : Char} {tail : Text} {item : Item}
    (classified : classifyDashed ('-' :: c :: tail) = .ok item)
    (other : c :: tail ≠ ['-'])
    (rest : List Text) :
    classify (('-' :: c :: tail) :: rest) = (classify rest).map (item :: ·) := by
  rw [classify, classified]
  · cases classify rest <;> rfl
  · intro same
    exact other (List.cons.inj same).2

/-- An option with its argument in the next word makes two items. -/
theorem classify_cons_cons
    {c : Char} {tail argument : Text} {item : Item}
    (classified : classifyDashed ('-' :: c :: tail) = .ok item)
    (other : c :: tail ≠ ['-'])
    (operand : argument.head? ≠ some '-')
    (rest : List Text) :
    classify (('-' :: c :: tail) :: argument :: rest) =
      (classify rest).map ([item, .operand argument] ++ ·) := by
  rw [classify_cons_of_classifyDashed classified other, classify_cons_of_operand operand]
  cases classify rest <;> rfl

theorem head?_assignment
    {name : Name}
    (isName : IsName name)
    (value : Text) :
    (name ++ '=' :: value).head? ≠ some '-' := by
  cases name with
  | nil => exact isName.elim
  | cons first rest =>
      intro dash
      obtain rfl : first = '-' := by simpa using dash
      exact absurd (isName.continuesName_of_mem List.mem_cons_self) (by decide)

theorem classify_words_append
    {choice : Choice}
    (proper : choice.IsProper)
    (rest : List Text) :
    classify (choice.words ++ rest) = (classify rest).map (choice.items ++ ·) := by
  cases choice with
  | strict => exact classify_cons_of_classifyDashed (by rfl) (by decide) rest
  | ignoreEnvironment => exact classify_cons_of_classifyDashed (by rfl) (by decide) rest
  | assignment name value =>
      exact classify_cons_cons (by rfl) (by decide) (head?_assignment proper value) rest
  | input file => exact classify_cons_cons (by rfl) (by decide) proper.1 rest
  | output file => exact classify_cons_cons (by rfl) (by decide) proper.1 rest

/-- The words of options are classified option by option. -/
theorem classify_flatMap_words
    {choices : List Choice}
    (proper : ∀ choice ∈ choices, choice.IsProper) :
    classify (choices.flatMap Choice.words) = .ok (choices.flatMap Choice.items) := by
  induction choices with
  | nil => rfl
  | cons choice choices ih =>
      rw [List.forall_mem_cons] at proper
      rw [List.flatMap_cons, classify_words_append proper.1, ih proper.2]
      rfl

/-- A name and a value are read back from the argument that they make. -/
theorem readAssignment_append
    {name : Name}
    (isName : IsName name)
    (value : Text) :
    Settings.readAssignment (name ++ '=' :: value) = .ok (name, value) := by
  have absent : '=' ∉ name := fun member =>
    absurd (isName.continuesName_of_mem member) (by decide)
  rw [Settings.readAssignment, Text.cutAtFirst_eq_iff.mpr (.parts absent value)]
  cases name with
  | nil => exact isName.elim
  | cons first rest => rfl

/-- An option is carried out before those behind it. -/
theorem carryOut_items_append
    {choice : Choice}
    (proper : choice.IsProper)
    (settings : Settings)
    (unrecognized : List Text)
    (rest : List Item) :
    settings.carryOut unrecognized (choice.items ++ rest) =
      (choice.apply settings).carryOut unrecognized rest := by
  -- Two dashes would leave an option without its argument.
  have given {argument : Text} (operand : argument.head? ≠ some '-') :
      argument ≠ ['-', '-'] := by
    rintro rfl
    exact operand rfl
  cases choice with
  | strict => rfl
  | ignoreEnvironment => rfl
  | assignment name value =>
      show (settings.setTo .env _).bind (·.carryOut unrecognized rest) = _
      simp only [Settings.setTo, if_neg (given (head?_assignment proper value)),
        readAssignment_append proper]
      rfl
  | input file =>
      show (settings.setTo .input file).bind (·.carryOut unrecognized rest) = _
      simp only [Settings.setTo, if_neg (given proper.1)]
      rfl
  | output file =>
      show (settings.setTo .output file).bind (·.carryOut unrecognized rest) = _
      simp only [Settings.setTo, if_neg (given proper.1)]
      rfl

theorem carryOut_flatMap_items
    {choices : List Choice}
    (proper : ∀ choice ∈ choices, choice.IsProper)
    (settings : Settings) :
    settings.carryOut [] (choices.flatMap Choice.items) =
      .ok (choices.foldl Choice.apply settings, []) := by
  induction choices generalizing settings with
  | nil => rfl
  | cons choice choices ih =>
      rw [List.forall_mem_cons] at proper
      rw [List.flatMap_cons, carryOut_items_append proper.1, ih proper.2, List.foldl_cons]

/-- A command line made of options is accepted, and read as what the options ask for. -/
theorem ofArguments_flatMap_words
    {choices : List Choice}
    (proper : ∀ choice ∈ choices, choice.IsProper) :
    Settings.ofArguments (choices.flatMap Choice.words) = .ok (settingsOf choices) := by
  simp only [Settings.ofArguments, classify_flatMap_words proper, carryOut_flatMap_items proper,
    foldl_apply]
  rfl

/-! ## Variables -/

/-- The variables of a run: those of the process, unless they are ignored, and then those given. -/
def variablesOf (choices : List Choice) (environment : Variables) : Variables :=
  (choices.filterMap Choice.assignment?).foldl
    (fun bindings assignment => bindings.put assignment.1 assignment.2)
    (if .ignoreEnvironment ∈ choices then {} else environment)

theorem foldl_put
    (assignments : List (Name × Text))
    (bindings : Variables) :
    assignments.foldl (fun bindings assignment => bindings.put assignment.1 assignment.2)
        bindings =
      bindings.override (.ofList assignments) := by
  induction assignments using List.reverseRecOn with
  | nil => rfl
  | append_singleton assignments assignment ih =>
      rw [List.foldl_append, ih]
      simp [Store.put, Store.override, Store.ofList]

theorem givenVariables_map_given
    (count : Nat)
    (assignments : List (Name × Text)) :
    givenVariables count (assignments.map .given) = .ok assignments := by
  induction assignments generalizing count with
  | nil => rfl
  | cons assignment assignments ih =>
      rw [List.map_cons, givenVariables, ih]
      rfl

theorem given_settingsOf (choices : List Choice) :
    (settingsOf choices).given = .ok (.ofList (choices.filterMap Choice.assignment?)) := by
  simp only [Settings.given, settingsOf, givenVariables_map_given]
  rfl

/-- Each variable that is given takes the place of those of the same name before it. -/
theorem variables_settingsOf (choices : List Choice) (environment : Variables) :
    (settingsOf choices).variables environment
        (.ofList (choices.filterMap Choice.assignment?)) =
      variablesOf choices environment := by
  simp only [Settings.variables, settingsOf, variablesOf, foldl_put, List.contains_iff_mem]

/-! ## File names -/

theorem mem_of_mem_splitOn
    {mark c : Char} {text piece : Text}
    (isPiece : piece ∈ text.splitOn mark)
    (member : c ∈ piece) :
    c ∈ text := by
  induction text generalizing piece with
  | nil =>
      obtain rfl : piece = [] := by simpa [Text.splitOn] using isPiece
      exact member
  | cons first text ih =>
      rw [Text.splitOn, List.foldr_cons, ← Text.splitOn] at isPiece
      split at isPiece
      · rcases List.mem_cons.mp isPiece with rfl | isPiece
        · cases member
        · exact List.mem_cons_of_mem _ (ih isPiece member)
      · split at isPiece
        · rename_i head pieces same
          rw [same] at ih
          rcases List.mem_cons.mp isPiece with rfl | isPiece
          · rcases List.mem_cons.mp member with rfl | member
            · exact List.mem_cons_self
            · exact List.mem_cons_of_mem _ (ih List.mem_cons_self member)
          · exact List.mem_cons_of_mem _ (ih (List.mem_cons_of_mem _ isPiece) member)
        · obtain rfl := List.mem_singleton.mp isPiece
          rw [List.mem_singleton.mp member]
          exact List.mem_cons_self

/-- What is written between marks is made of its pieces and the mark. -/
theorem mem_intercalate
    {mark c : Char} {pieces : List Text}
    (member : c ∈ [mark].intercalate pieces) :
    c = mark ∨ ∃ piece ∈ pieces, c ∈ piece := by
  induction pieces with
  | nil => cases member
  | cons first pieces ih =>
      cases pieces with
      | nil =>
          exact Or.inr ⟨first, List.mem_cons_self, by simpa [List.intercalate] using member⟩
      | cons second pieces =>
          rw [List.intercalate, List.intersperse_cons_cons, List.flatten_cons, List.flatten_cons,
            ← List.intercalate] at member
          rcases List.mem_append.mp member with inFirst | member
          · exact Or.inr ⟨first, List.mem_cons_self, inFirst⟩
          · rcases List.mem_append.mp member with isMark | member
            · exact Or.inl (List.mem_singleton.mp isMark)
            · rcases ih member with isMark | ⟨piece, isPiece, member⟩
              · exact Or.inl isMark
              · exact Or.inr ⟨piece, List.mem_cons_of_mem _ isPiece, member⟩

/-- The path of a file has no zero character that its name does not have. -/
theorem hasZero_ofText
    {file : Text}
    (absent : '\x00' ∉ file) :
    (Path.ofText file).hasZero = false := by
  have noRoot : '\x00' ∉ (Path.ofText file).root := by
    show '\x00' ∉ Path.rootOf file
    unfold Path.rootOf
    split <;> decide
  have noComponent : '\x00' ∉ ['/'].intercalate (Path.ofText file).components := by
    intro member
    rcases mem_intercalate member with isSlash | ⟨component, isComponent, member⟩
    · exact absurd isSlash (by decide)
    · exact absent (mem_of_mem_splitOn (List.mem_filter.mp isComponent).1 member)
  rw [Path.hasZero, Path.text, List.contains_eq_mem, decide_eq_false_iff_not]
  split
  · decide
  · exact fun member => (List.mem_append.mp member).elim noRoot noComponent

end ParameterExpansion.Command
