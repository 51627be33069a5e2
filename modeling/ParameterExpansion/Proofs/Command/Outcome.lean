import ParameterExpansion.Proofs.Command.CommandLine
import ParameterExpansion.Proofs.Command.Failures

/-!
# Outcomes of the command

A command line made of options, in whatever order, has the outcome that expanding its template has.
Either the result is delivered in full, on standard output or as the only file that changes, or the
run says why it failed and leaves nothing else behind.  How files are kept is left to the file
system.  All that is asked of it is that the file to write, if it can be opened, is one that keeps
what is written to it.
-/

namespace ParameterExpansion.Command

open Expansion Template

variable {Files File : Type}

/-! ## Files that are kept -/

/-- A file holds content now, and all other files are what they were before. -/
def IsReplaced (content? : Files → File → Option (List UInt8)) (file : File)
    (content : List UInt8) (before after : Files) : Prop :=
  content? after file = some content ∧
    ∀ other, other ≠ file → content? after other = content? before other

/--
What a path leads to, if it can be opened to be written, is a file that keeps what is written.
Opening leaves it empty, appending to it then does not fail and puts content behind what it holds,
and neither changes another file.
-/
structure FileSystem.KeepsAt (fileSystem : FileSystem Files File)
    (content? : Files → File → Option (List UInt8)) (files : Files) (path : Path) : Prop where
  opens : ∀ {file : File} {opened : Files},
    fileSystem.openFile path files = .ok (file, opened) →
      IsReplaced content? file [] files opened
  appends : ∀ {file : File} {opened : Files} {held : List UInt8},
    fileSystem.openFile path files = .ok (file, opened) → content? opened file = some held →
      ∀ content, ∃ written,
        fileSystem.append file content opened = (.ok (), written) ∧
          IsReplaced content? file (held ++ content) opened written

/-- A file that is kept and that was opened is written with all of its content. -/
theorem FileSystem.KeepsAt.exists_written
    {fileSystem : FileSystem Files File} {content? : Files → File → Option (List UInt8)}
    {path : Path} {files opened : Files} {file : File}
    (keeps : fileSystem.KeepsAt content? files path)
    (opens : fileSystem.openFile path files = .ok (file, opened))
    (content : List UInt8) :
    ∃ written,
      fileSystem.append file content opened = (.ok (), written) ∧
        IsReplaced content? file content files written := by
  rcases keeps.opens opens with ⟨empty, untouched⟩
  rcases keeps.appends opens empty content with ⟨written, writes, holds, kept⟩
  exact ⟨written, writes, holds,
    fun other different => (kept other different).trans (untouched other different)⟩

/-! ## What a run is to do -/

/-- The mode that a run expands in. -/
def modeOf (choices : List Choice) : Mode :=
  if .strict ∈ choices then .strict else .lenient

/-- The text that bytes hold, with unified line ends, if they can be decoded. -/
def decoded? (bytes : List UInt8) : Option Text :=
  (Text.Utf8.decode bytes).toOption.map Text.unifyNewlines

/-- The template that a run is to expand, if it can be read and decoded. -/
def template? (fileSystem : FileSystem Files File) (stdin : Except Text (List UInt8))
    (files : Files) (choices : List Choice) : Option Text :=
  match inputFile? choices with
  | none => stdin.toOption.bind decoded?
  | some file => (fileSystem.read (.ofText file) files).toOption.bind decoded?

/-- A run has failed: it says why, and has neither written a result nor changed a file. -/
def HasFailed (files : Files) (ran : Except Abort Nat × Remains Files) : Prop :=
  ∃ words, ran = (.ok 1, { files, stdout := [], stderr := complaint words })

/--
A run has delivered a result to where it is to be written.  That is standard output, or a file,
which then holds the result and is the only one that has changed.  If the file cannot be opened, the
run has failed and says why.
-/
def HasDelivered (fileSystem : FileSystem Files File)
    (content? : Files → File → Option (List UInt8)) (files : Files) (output? : Option Text)
    (result : Text) (ran : Except Abort Nat × Remains Files) : Prop :=
  match output? with
  | none => ran = (.ok 0, { files, stdout := result, stderr := [] })
  | some name =>
    (∀ file opened, fileSystem.openFile (.ofText name) files = .ok (file, opened) →
      ∃ written,
        IsReplaced content? file (Text.Utf8.encode result) files written ∧
        ran = (.ok 0, { files := written, stdout := [], stderr := [] })) ∧
    ∀ words, fileSystem.openFile (.ofText name) files = .error words →
      ran = (.ok 1, {
        files
        stdout := []
        stderr := complaintAbout (Path.ofText name).text words })

/-! ## Reading and writing -/

theorem mode_settingsOf (choices : List Choice) :
    (settingsOf choices).mode = modeOf choices := by
  simp only [Settings.mode, settingsOf, modeOf, List.contains_iff_mem]

/-- No option asks for diagnostic output. -/
theorem verbose_settingsOf (choices : List Choice) :
    (settingsOf choices).verbose = false :=
  rfl

/-- A template is read, or the run ends with a complaint. -/
def IsReadAs (template? : Option Text) (outcome : Except Halt Text) : Prop :=
  match template? with
  | some text => outcome = .ok text
  | none => ∃ words, outcome = .error (.complaint (complaint words))

theorem isReadAs_templateOf (settings : Settings) (bytes : List UInt8) :
    IsReadAs (decoded? bytes) (templateOf settings bytes) := by
  rw [decoded?, templateOf]
  cases Text.Utf8.decode bytes with
  | ok text => rfl
  | error fault => exact ⟨_, rfl⟩

section Proper

variable {choices : List Choice} {file : Text}

/-- The files that are read and written have names that files can have. -/
theorem isFileName_of_named
    (proper : ∀ choice ∈ choices, choice.IsProper)
    (named : inputFile? choices = some file ∨ outputFile? choices = some file) :
    Choice.IsFileName file := by
  rcases named with named | named
  all_goals
    rcases List.mem_filterMap.mp (List.mem_of_getLast? named) with ⟨choice, member, names⟩
    cases choice <;> cases names
    exact proper _ member

/-- The template is read, or what is wrong with the input is said. -/
theorem isReadAs_template
    (proper : ∀ choice ∈ choices, choice.IsProper)
    (fileSystem : FileSystem Files File)
    (stdin : Except Text (List UInt8))
    (files : Files) :
    IsReadAs (template? fileSystem stdin files choices)
      (fileSystem.template stdin (settingsOf choices) files) := by
  cases named : inputFile? choices with
  | none =>
      have input : (settingsOf choices).input? = none := by rw [settingsOf, named]; rfl
      simp only [template?, named]
      rw [FileSystem.template_of_stdin input]
      cases stdin with
      | ok bytes => exact isReadAs_templateOf _ bytes
      | error words => exact ⟨_, rfl⟩
  | some file =>
      have input : (settingsOf choices).input? = some (.given (.ofText file)) := by
        rw [settingsOf, named]; rfl
      have noZero := hasZero_ofText (isFileName_of_named proper (Or.inl named)).2
      simp only [template?, named]
      rw [FileSystem.template_of_file input noZero]
      cases fileSystem.read (.ofText file) files with
      | ok bytes => exact isReadAs_templateOf _ bytes
      | error words => exact ⟨_, rfl⟩

/-- A result is written where the options ask for it. -/
theorem hasDelivered_deliver
    {fileSystem : FileSystem Files File} {content? : Files → File → Option (List UInt8)}
    {files : Files}
    (proper : ∀ choice ∈ choices, choice.IsProper)
    (keeps : ∀ file ∈ outputFile? choices, fileSystem.KeepsAt content? files (.ofText file))
    (environment : Variables)
    (stdin : Except Text (List UInt8))
    (result : Text) :
    let host := fileSystem.host environment stdin
    HasDelivered fileSystem content? files (outputFile? choices) result
      ((host.deliver (settingsOf choices) result >>= host.conclude).run { files }) := by
  intro host
  have silent := logWriting_of_not_verbose (verbose_settingsOf choices)
  cases named : outputFile? choices with
  | none =>
      have output : (settingsOf choices).output? = none := by rw [settingsOf, named]; rfl
      rw [run_bind_of_run (FileSystem.run_deliver_of_stdout output result), silent]
      rfl
  | some file =>
      have output : (settingsOf choices).output? = some (.given (.ofText file)) := by
        rw [settingsOf, named]; rfl
      have noZero := hasZero_ofText (isFileName_of_named proper (Or.inr named)).2
      constructor
      · intro handle opened opens
        rcases (keeps file named).exists_written opens (Text.Utf8.encode result) with
          ⟨written, writes, isReplaced⟩
        refine ⟨written, isReplaced, ?_⟩
        rw [run_bind_of_run (FileSystem.run_deliver_of_written output noZero opens writes), silent]
        rfl
      · intro words refused
        rw [run_bind_of_run (FileSystem.run_deliver_of_refused output noZero refused result),
          silent]
        rfl

end Proper

/-! ## Runs -/

/-- A directory keeps the files that are written in it. -/
theorem keepsAt_directory
    (files : Store (List UInt8))
    (path : Path) :
    FileSystem.directory.KeepsAt Store.get? files path := by
  have isReplaced_put (files : Store (List UInt8)) (file : Name) (content : List UInt8) :
      IsReplaced Store.get? file content files (files.put file content) :=
    ⟨files.get?_put_self file content, fun _ => files.get?_put_of_ne content⟩
  constructor
  · intro file opened opens
    simp only [FileSystem.directory] at opens
    split at opens
    · cases opens
      exact isReplaced_put files _ []
    · cases opens
  · intro file opened held _ holds content
    refine ⟨_, rfl, ?_⟩
    rw [holds]
    exact isReplaced_put opened file (held ++ content)

end ParameterExpansion.Command
