import ParameterExpansion.Command.Host
import ParameterExpansion.Command.Usage
import ParameterExpansion.Template
import ParameterExpansion.Text.Newline
import ParameterExpansion.Text.Utf8

/-!
# Running the command

The command reads a template from a file or from standard input, expands it with the variables of
the host and those given, and writes the result to a file or to standard output.  Nothing is written
unless reading and expanding have succeeded, and a failure is one line on standard error.  Some runs
are aborted and have no exit status: a number is too long to be read, an option that is needed was
left without its argument, or a path holds a zero character.
-/

namespace ParameterExpansion.Command

open Expansion

/-- Why a run is aborted. -/
inductive Abort where
  | failure (failure : Failure)
  | missingAssignment (index : Nat)
  | missingInput
  | missingOutput
  | zeroInPath
  deriving DecidableEq, Repr

/-- What is said about an aborted run. -/
def Abort.message : Abort → Text
  | .failure cause => cause.message
  | .missingAssignment index =>
    "dictionary update sequence element #".toList ++ Text.Decimal.ofNat index ++
      " has length 0; 2 is required".toList
  | .missingInput => "'list' object has no attribute 'read_text'".toList
  | .missingOutput => "'list' object has no attribute 'write_text'".toList
  | .zeroInPath => "embedded null byte".toList

/-- What ends a run early: a complaint on standard error, or an abort. -/
inductive Halt where
  | complaint (words : Text)
  | abort (abort : Abort)

/-- The path that an option names, in diagnostic output. -/
def Argument.shown : Argument Path → Text
  | .missing => ['[', ']']
  | .given path => path.text

/-- The variables that were given, unless one of them was left out; `count` of them came before. -/
def givenVariables (count : Nat) :
    List (Argument (Name × Text)) → Except Abort (List (Name × Text))
  | [] => .ok []
  | .missing :: _ => .error (.missingAssignment count)
  | .given assignment :: rest => (givenVariables (count + 1) rest).map (assignment :: ·)

namespace Settings

/-- How variables that are not set are treated. -/
def mode (settings : Settings) : Mode :=
  if settings.strict then .strict else .lenient

/-- The variables that were given. -/
def given (settings : Settings) : Except Abort Variables :=
  (givenVariables 0 settings.assignments).map .ofList

/-- A line of diagnostic output, if it is wanted. -/
def log (settings : Settings) (line : Text) : Text :=
  if settings.verbose then "envsubst.cli - DEBUG - ".toList ++ line ++ ['\n'] else []

/-- The diagnostic line with the mode and the number of variables given. -/
def logStart (settings : Settings) : Text :=
  let mode :=
    match settings.mode with
    | .lenient => "lenient".toList
    | .strict => "strict".toList
  settings.log ("Mode: ".toList ++ mode ++ ", ".toList ++
    Text.Decimal.ofNat settings.assignments.length ++ " override(s)".toList)

/-- The diagnostic line before a template file is read. -/
def logReading (settings : Settings) : Text :=
  match settings.input? with
  | none => []
  | some input => settings.log ("Reading template from: ".toList ++ input.shown)

/-- The diagnostic line before a file is written. -/
def logWriting (settings : Settings) : Text :=
  match settings.output? with
  | none => []
  | some output => settings.log ("Writing result to: ".toList ++ output.shown)

/-- The diagnostic line about a template that cannot be expanded. -/
def logFailure (settings : Settings) (failure : Failure) : Text :=
  settings.log ("Expansion failed: ".toList ++ failure.label)

/-- The name of the input in messages about its text. -/
def inputName (settings : Settings) : Text :=
  match settings.input? with
  | none => "<stdin>".toList
  | some input => input.shown

end Settings

/-- One line about a failure. -/
def complaint (words : Text) : Text :=
  commandName ++ ": ".toList ++ words ++ ['\n']

/-- One line about a failure that concerns a file. -/
def complaintAbout (name words : Text) : Text :=
  complaint (name ++ ": ".toList ++ words)

/-- The template that bytes hold, with unified line ends, or the complaint about them. -/
def templateOf (settings : Settings) (bytes : List UInt8) : Except Halt Text :=
  match Text.Utf8.decode bytes with
  | .error fault => .error (.complaint (complaintAbout settings.inputName fault.message))
  | .ok text => .ok text.unifyNewlines

/--
What ends the run if a template cannot be expanded.  A number that is too long to be read is no
failure to complain about, and aborts the run.
-/
def haltOf (settings : Settings) (failure : Failure) : Halt :=
  if failure.isExpansionFailure then
    .complaint (settings.logFailure failure ++ complaint failure.message)
  else .abort (.failure failure)

namespace Host

variable {m : Type → Type} [Monad m] {Handle : Type}

/-- The value of a variable: the one that was given, or that of the host unless it is ignored. -/
def lookUp (host : Host m Handle) (settings : Settings) (given : Variables) (name : Name) :
    m (Option Text) :=
  match given.get? name with
  | some value => return some value
  | none => if settings.ignoreEnvironment then return none else host.value? name

/-- Read the template that the command is to expand. -/
def readTemplate (host : Host m Handle) (settings : Settings) : m (Except Halt Text) := do
  host.warn settings.logReading
  match settings.input? with
  | none =>
    match ← host.readInput with
    | .error words => return .error (.complaint (complaintAbout "None".toList words))
    | .ok bytes => return templateOf settings bytes
  | some .missing => return .error (.abort .missingInput)
  | some (.given path) =>
    if path.hasZero then return .error (.abort .zeroInPath)
    else
      match ← host.readFile path with
      | .error words => return .error (.complaint (complaintAbout path.text words))
      | .ok bytes => return templateOf settings bytes

/-- Write content to a file, which is made empty first. -/
def replaceFile (host : Host m Handle) (path : Path) (content : List UInt8) :
    m (Except Text Unit) := do
  match ← host.openFile path with
  | .error words => return .error words
  | .ok handle => host.writeFile handle content

/-- Write a result. -/
def deliver (host : Host m Handle) (settings : Settings) (result : Text) :
    m (Except Halt Unit) := do
  host.warn settings.logWriting
  match settings.output? with
  | none => return .ok (← host.print result)
  | some .missing => return .error (.abort .missingOutput)
  | some (.given path) =>
    if path.hasZero then return .error (.abort .zeroInPath)
    else
      match ← host.replaceFile path (Text.Utf8.encode result) with
      | .error words => return .error (.complaint (complaintAbout path.text words))
      | .ok _ => return .ok ()

/-- The exit status of a run that may have ended early; a complaint is made then. -/
def conclude (host : Host m Handle) : Except Halt Unit → m (Except Abort Nat)
  | .ok _ => return .ok 0
  | .error (.complaint words) => do
    host.warn words
    return .ok 1
  | .error (.abort abort) => return .error abort

/-- Expand a template and deliver the result. -/
def expandAndDeliver (host : Host m Handle) (settings : Settings) (given : Variables)
    (template : Text) : m (Except Abort Nat) := do
  match ← expandIn {} settings.mode (host.lookUp settings given) template with
  | .error failure => host.conclude (.error (haltOf settings failure))
  | .ok result => host.conclude (← host.deliver settings result)

/-- Carry out settings. -/
def carryOut (host : Host m Handle) (settings : Settings) : m (Except Abort Nat) := do
  match settings.given with
  | .error abort => return .error abort
  | .ok given =>
    host.warn settings.logStart
    match ← host.readTemplate settings with
    | .error halt => host.conclude (.error halt)
    | .ok template => host.expandAndDeliver settings given template

/-- Run the command. -/
def run (host : Host m Handle) (arguments : List Text) : m (Except Abort Nat) :=
  match Settings.ofArguments arguments with
  | .error .help => do
    host.print help
    return .ok 0
  | .error (.usage fault) => do
    host.warn fault.report
    return .ok 2
  | .ok settings => host.carryOut settings

end Host

end ParameterExpansion.Command
