import ParameterExpansion.Command.FileSystem

/-!
# Running on a file system

On a file system a run is a function of the files, and what it leaves behind is known step by step:
diagnostic lines are said in order, the template is read and changes nothing, and the variables that
are looked up are those of one store.  So a run goes on with the outcome of expanding the template
with that store.
-/

namespace ParameterExpansion.Command

open Expansion

/-- The variables of a run: those of the process, unless they are ignored, and then those given. -/
def Settings.variables (settings : Settings) (environment given : Variables) : Variables :=
  (if settings.ignoreEnvironment then {} else environment).override given

/-! ## Diagnostic lines -/

section Quiet

variable {settings : Settings} (quiet : settings.verbose = false)
include quiet

theorem log_of_not_verbose (line : Text) :
    settings.log line = [] := by
  rw [Settings.log, quiet]
  rfl

theorem logStart_of_not_verbose :
    settings.logStart = [] :=
  log_of_not_verbose quiet _

theorem logReading_of_not_verbose :
    settings.logReading = [] := by
  unfold Settings.logReading
  split
  · rfl
  · exact log_of_not_verbose quiet _

theorem logWriting_of_not_verbose :
    settings.logWriting = [] := by
  unfold Settings.logWriting
  split
  · rfl
  · exact log_of_not_verbose quiet _

end Quiet

/-! ## Steps of a program -/

section Steps

variable {State Value Result : Type} {step : StateM State Value} {state left : State}
  {value : Value}

/-- A program goes on with what a step gives, from the state that the step leaves. -/
theorem run_bind_of_run
    (ran : step.run state = (value, left))
    (next : Value → StateM State Result) :
    (step >>= next).run state = (next value).run left := by
  rw [StateT.run_bind, ran]
  rfl

end Steps

namespace FileSystem

variable {Files File : Type} (fileSystem : FileSystem Files File) (environment : Variables)
  (stdin : Except Text (List UInt8)) (settings : Settings)

/-- The template that a run is to expand, or what ends the run in its place. -/
def template (files : Files) : Except Halt Text :=
  (((fileSystem.host {} stdin).readTemplate settings).run { files }).1

/-! ## Operations of the host -/

theorem run_warn
    (words : Text)
    (remains : Remains Files) :
    ((fileSystem.host environment stdin).warn words).run remains =
      ((), { remains with stderr := remains.stderr ++ words }) :=
  rfl

theorem run_readFile
    (path : Path)
    (remains : Remains Files) :
    ((fileSystem.host environment stdin).readFile path).run remains =
      (fileSystem.read path remains.files, remains) :=
  rfl

section Writing

variable {fileSystem : FileSystem Files File} {environment : Variables}
  {stdin : Except Text (List UInt8)} {files : Files} {stdout stderr : Text} {path : Path}
  {file : File}

theorem run_openFile_of_error
    {words : Text}
    (refused : fileSystem.openFile path files = .error words) :
    ((fileSystem.host environment stdin).openFile path).run ⟨files, stdout, stderr⟩ =
      (.error words, ⟨files, stdout, stderr⟩) := by
  simp only [host, StateT.run, refused]

theorem run_openFile_of_ok
    {opened : Files}
    (opens : fileSystem.openFile path files = .ok (file, opened)) :
    ((fileSystem.host environment stdin).openFile path).run ⟨files, stdout, stderr⟩ =
      (.ok file, ⟨opened, stdout, stderr⟩) := by
  simp only [host, StateT.run, opens]

theorem run_writeFile
    {content : List UInt8} {result : Except Text Unit} {written : Files}
    (writes : fileSystem.append file content files = (result, written)) :
    ((fileSystem.host environment stdin).writeFile file content).run ⟨files, stdout, stderr⟩ =
      (result, ⟨written, stdout, stderr⟩) := by
  simp only [host, StateT.run, writes]

end Writing

/-- Variables are looked up in one store, and nothing else happens then. -/
theorem lookUp_host (given : Variables) :
    (fileSystem.host environment stdin).lookUp settings given =
      fun name => pure ((settings.variables environment given).get? name) := by
  funext name
  rw [Host.lookUp, Settings.variables, Store.get?_override]
  cases given.get? name with
  | some value => rfl
  | none =>
      cases settings.ignoreEnvironment with
      | true => rfl
      | false => rfl

/-- Reading the template leaves behind no more than a diagnostic line. -/
theorem run_readTemplate (remains : Remains Files) :
    ((fileSystem.host environment stdin).readTemplate settings).run remains =
      (fileSystem.template stdin settings remains.files,
        { remains with stderr := remains.stderr ++ settings.logReading }) := by
  rw [template, Host.readTemplate, Host.readTemplate, run_bind_of_run (run_warn ..),
    run_bind_of_run (run_warn ..)]
  cases settings.input? with
  | none => cases stdin <;> rfl
  | some input =>
      cases input with
      | missing => rfl
      | given path =>
          dsimp only
          split
          · rfl
          · rw [run_bind_of_run (run_readFile ..), run_bind_of_run (run_readFile ..)]
            cases fileSystem.read path remains.files <;> rfl

/-- Expanding in a run is expanding with one store. -/
theorem run_expandIn
    (given : Variables)
    (template : Text)
    (remains : Remains Files) :
    (expandIn {} settings.mode ((fileSystem.host environment stdin).lookUp settings given)
        template).run remains =
      (expandWith {} settings.mode (settings.variables environment given) template, remains) := by
  rw [lookUp_host, expandIn_pure]
  rfl

/-! ## Templates -/

section Templates

variable {fileSystem : FileSystem Files File} {stdin : Except Text (List UInt8)}
  {settings : Settings} {files : Files} {path : Path}

theorem template_of_stdin
    (input : settings.input? = none) :
    fileSystem.template stdin settings files =
      (stdin.mapError fun words => .complaint (complaintAbout "None".toList words)).bind
        (templateOf settings) := by
  simp only [template, Host.readTemplate, input]
  cases stdin <;> rfl

theorem template_of_file
    (input : settings.input? = some (.given path))
    (noZero : path.hasZero = false) :
    fileSystem.template stdin settings files =
      ((fileSystem.read path files).mapError fun words =>
        .complaint (complaintAbout path.text words)).bind (templateOf settings) := by
  simp only [template, Host.readTemplate, input, noZero]
  rw [run_bind_of_run (run_warn ..)]
  simp only [Bool.false_eq_true, if_false]
  rw [run_bind_of_run (run_readFile ..)]
  cases fileSystem.read path files <;> rfl

end Templates

/-! ## Runs -/

section Runs

variable {fileSystem : FileSystem Files File} {environment : Variables}
  {stdin : Except Text (List UInt8)} {settings : Settings} {given : Variables} {files : Files}
  {template result : Text}

/-- A run in which no template is read ends with what stands in its place. -/
theorem run_carryOut_of_unread
    {halt : Halt}
    (isGiven : settings.given = .ok given)
    (unread : fileSystem.template stdin settings files = .error halt) :
    let host := fileSystem.host environment stdin
    (host.carryOut settings).run { files } =
      (host.conclude (.error halt)).run
        { files, stderr := settings.logStart ++ settings.logReading } := by
  intro host
  simp only [Host.carryOut, isGiven]
  rw [run_bind_of_run (run_warn ..), run_bind_of_run (run_readTemplate ..)]
  simp only [unread, List.nil_append]

/-- A run in which a template is read goes on to expand it. -/
theorem run_carryOut_of_read
    (isGiven : settings.given = .ok given)
    (read : fileSystem.template stdin settings files = .ok template) :
    let host := fileSystem.host environment stdin
    (host.carryOut settings).run { files } =
      (host.expandAndDeliver settings given template).run
        { files, stderr := settings.logStart ++ settings.logReading } := by
  intro host
  simp only [Host.carryOut, isGiven]
  rw [run_bind_of_run (run_warn ..), run_bind_of_run (run_readTemplate ..)]
  simp only [read, List.nil_append]

/-- A template that cannot be expanded ends the run with what the failure leads to. -/
theorem run_expandAndDeliver_of_failed
    {failure : Failure}
    (failed : expandWith {} settings.mode (settings.variables environment given) template =
      .error failure)
    (remains : Remains Files) :
    let host := fileSystem.host environment stdin
    (host.expandAndDeliver settings given template).run remains =
      (host.conclude (.error (haltOf settings failure))).run remains := by
  intro host
  rw [Host.expandAndDeliver, run_bind_of_run (run_expandIn ..)]
  simp only [failed]

/-- The result of a template that is expanded is delivered. -/
theorem run_expandAndDeliver_of_expanded
    (expanded : expandWith {} settings.mode (settings.variables environment given) template =
      .ok result)
    (remains : Remains Files) :
    let host := fileSystem.host environment stdin
    (host.expandAndDeliver settings given template).run remains =
      (host.deliver settings result >>= host.conclude).run remains := by
  intro host
  rw [Host.expandAndDeliver, run_bind_of_run (run_expandIn ..)]
  simp only [expanded]

/-! ## Results -/

variable {path : Path} {stdout stderr : Text}

/-- A result is printed if there is no file to write it to. -/
theorem run_deliver_of_stdout
    (output : settings.output? = none)
    (result : Text) :
    ((fileSystem.host environment stdin).deliver settings result).run ⟨files, stdout, stderr⟩ =
      (.ok (), ⟨files, stdout ++ result, stderr ++ settings.logWriting⟩) := by
  simp only [Host.deliver, output]
  rfl

/-- A file that cannot be opened is complained about. -/
theorem run_deliver_of_refused
    {words : Text}
    (output : settings.output? = some (.given path))
    (noZero : path.hasZero = false)
    (refused : fileSystem.openFile path files = .error words)
    (result : Text) :
    ((fileSystem.host environment stdin).deliver settings result).run ⟨files, stdout, stderr⟩ =
      (.error (.complaint (complaintAbout path.text words)),
        ⟨files, stdout, stderr ++ settings.logWriting⟩) := by
  simp only [Host.deliver, Host.replaceFile, output, noZero, Bool.false_eq_true, if_false,
    bind_assoc]
  rw [run_bind_of_run (run_warn ..), run_bind_of_run (run_openFile_of_error refused)]
  rfl

/-- A file that is opened is written. -/
theorem run_deliver_of_written
    {file : File} {opened written : Files}
    (output : settings.output? = some (.given path))
    (noZero : path.hasZero = false)
    (opens : fileSystem.openFile path files = .ok (file, opened))
    (writes : fileSystem.append file (Text.Utf8.encode result) opened = (.ok (), written)) :
    ((fileSystem.host environment stdin).deliver settings result).run ⟨files, stdout, stderr⟩ =
      (.ok (), ⟨written, stdout, stderr ++ settings.logWriting⟩) := by
  simp only [Host.deliver, Host.replaceFile, output, noZero, Bool.false_eq_true, if_false,
    bind_assoc]
  rw [run_bind_of_run (run_warn ..), run_bind_of_run (run_openFile_of_ok opens),
    run_bind_of_run (run_writeFile writes)]
  rfl

end Runs

/-! ## A directory -/

/-- One directory with files in it, which are written under their names, and no other directory. -/
def directory : FileSystem (Store (List UInt8)) Name where
  read path files := (files.get? path.text).elim (.error "No such file or directory".toList) .ok
  openFile path files :=
    if path.root = [] ∧ path.components.length = 1 then .ok (path.text, files.put path.text [])
    else .error "No such file or directory".toList
  append file content files :=
    (.ok (), files.put file ((files.get? file).getD [] ++ content))

end FileSystem

end ParameterExpansion.Command
