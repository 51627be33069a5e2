import ParameterExpansion.Character.Digit
import ParameterExpansion.Command.Path
import ParameterExpansion.Text.Quoted

/-!
# Command line options

Options are written with two dashes and a word, of which any beginning that fits only one option is
enough, or with one dash and a letter; letters without arguments may share a dash.  An argument
follows as the next word or in the same one, where an equals sign may stand before it.  All words
are classified first, so an ambiguous option is reported before anything else; then options take
effect in order.  Whatever is not an option or the argument of one is unrecognized, which is
reported at the end.
-/

namespace ParameterExpansion.Command

/-- The options. -/
inductive Switch where
  | help
  | strict
  | env
  | ignoreEnvironment
  | input
  | output
  | verbose
  deriving DecidableEq, Repr

namespace Switch

/-- Every option. -/
def all : List Switch :=
  [help, strict, env, ignoreEnvironment, input, output, verbose]

/-- How an option is written. -/
def spellings : Switch → List Text
  | help => ["-h".toList, "--help".toList]
  | strict => ["--strict".toList, "-s".toList]
  | env => ["--env".toList, "-e".toList]
  | ignoreEnvironment => ["--ignore-environment".toList]
  | input => ["--input".toList, "-i".toList]
  | output => ["--output".toList, "-o".toList]
  | verbose => ["--verbose".toList, "-v".toList]

/-- The options that take an argument. -/
def takesArgument : Switch → Bool
  | env | input | output => true
  | _ => false

/-- Every spelling, with its option. -/
def table : List (Text × Switch) :=
  all.flatMap fun switch => switch.spellings.map (·, switch)

end Switch

/-- What is wrong with a command line. -/
inductive UsageFault where
  | ambiguous (word : Text) (candidates : List Text)
  | missingArgument (switch : Switch)
  | unexpectedArgument (switch : Switch) (argument : Text)
  | badAssignment (switch : Switch) (argument : Text)
  | unrecognized (words : List Text)
  deriving DecidableEq, Repr

/-- An explanation that concerns one option. -/
def Switch.explain (switch : Switch) (explanation : Text) : Text :=
  "argument ".toList ++ ['/'].intercalate switch.spellings ++ ": ".toList ++ explanation

/-- A fault in words. -/
def UsageFault.message : UsageFault → Text
  | .ambiguous word candidates =>
    "ambiguous option: ".toList ++ word ++ " could match ".toList ++
      [',', ' '].intercalate candidates
  | .missingArgument switch => switch.explain "expected one argument".toList
  | .unexpectedArgument switch argument =>
    switch.explain ("ignored explicit argument ".toList ++ Text.Quoted.encode argument)
  | .badAssignment switch argument =>
    switch.explain ("expected NAME=VALUE, got '".toList ++ argument ++ ['\''])
  | .unrecognized words => "unrecognized arguments: ".toList ++ [' '].intercalate words

/--
A word of the command line.  An option is written short or not, and text may follow it in the same
word.
-/
inductive Item where
  | operand (word : Text)
  | separator
  | unknown (word : Text)
  | switch (switch : Switch) (short : Bool) (joined? : Option Text)

/-- Text that looks like a negative number: digits after a dash, perhaps with a fraction. -/
def isNegativeNumber : Text → Bool
  | '-' :: rest =>
    let number := if rest.getLast? = some '\n' then rest.dropLast else rest
    match number.dropWhile Character.isDigit with
    | [] => !number.isEmpty
    | '.' :: fraction => !fraction.isEmpty && fraction.all Character.isDigit
    | _ => false
  | _ => false

/-- The options that a word may stand for when it is no full spelling. -/
def candidates (word : Text) : List (Text × Item) :=
  match word with
  | '-' :: '-' :: _ =>
    let (spelling, argument?) := word.cutAtFirst '='
    let fitting := Switch.table.filter fun entry => spelling.isPrefixOf entry.1
    fitting.map fun (full, switch) => (full, .switch switch false argument?)
  | dash :: letter :: rest =>
    let fitting := Switch.table.filter fun entry => entry.1 = [dash, letter]
    fitting.map fun (full, switch) => (full, .switch switch true (some rest))
  | _ => []

/-- The option that a full spelling stands for. -/
def fullSpelling? (spelling : Text) (joined? : Option Text) : Option Item :=
  (Switch.table.lookup spelling).map fun switch =>
    .switch switch (spelling.length == 2) joined?

/-- Classify a word that starts with a dash and has more characters. -/
def classifyDashed (word : Text) : Except UsageFault Item :=
  match fullSpelling? word none with
  | some item => .ok item
  | none =>
    match (match word.cutAtFirst '=' with
      | (spelling, some argument) => fullSpelling? spelling (some argument)
      | _ => none) with
    | some item => .ok item
    | none =>
      match candidates word with
      | [(_, item)] => .ok item
      | [] =>
        if isNegativeNumber word || word.contains ' ' then .ok (.operand word)
        else .ok (.unknown word)
      | several => .error (.ambiguous word (several.map (·.1)))

/-- Classify the words of a command line; after two dashes all are operands. -/
def classify : List Text → Except UsageFault (List Item)
  | [] => .ok []
  | ['-', '-'] :: rest => .ok (.separator :: rest.map .operand)
  | word :: rest => do
    let item ←
      match word with
      | '-' :: _ :: _ => classifyDashed word
      | _ => .ok (.operand word)
    return item :: (← classify rest)

/-- How a word of options ends. -/
inductive ClusterEnd where
  | complete
  | argument (switch : Switch) (argument : Text)
  | awaits (switch : Switch)

/--
Read the letters after an option.  They are its argument if it takes one, and further options
otherwise; `taken` holds the options read before, the last first.
-/
def readLetters (taken : List Switch) (switch : Switch) :
    Text → Except UsageFault (List Switch × ClusterEnd)
  | [] =>
    if switch.takesArgument then .ok (taken.reverse, .awaits switch)
    else .ok ((switch :: taken).reverse, .complete)
  | letter :: rest =>
    if switch.takesArgument then .ok (taken.reverse, .argument switch (letter :: rest))
    else
      match Switch.table.lookup ['-', letter] with
      | none => .error (.unexpectedArgument switch (letter :: rest))
      | some next => readLetters (switch :: taken) next rest

/--
Read a word of options: those without argument, in order, and how the word ends.  Only short
options share a word.
-/
def readCluster (switch : Switch) (short : Bool) (joined? : Option Text) :
    Except UsageFault (List Switch × ClusterEnd) :=
  match joined? with
  | none => readLetters [] switch []
  | some text =>
    if switch.takesArgument then .ok ([], .argument switch text)
    else if short && !text.isEmpty then readLetters [] switch text
    else .error (.unexpectedArgument switch text)

/-- The argument of an option.  Two dashes in the word of an option leave it without one. -/
inductive Argument (Value : Type) where
  | missing
  | given (value : Value)

/-- What the options of a command line ask for. -/
structure Settings where
  strict : Bool := false
  assignments : List (Argument (Name × Text)) := []
  ignoreEnvironment : Bool := false
  input? : Option (Argument Path) := none
  output? : Option (Argument Path) := none
  verbose : Bool := false

/-- Why a command line is not carried out: help was asked for, or it is faulty. -/
inductive Stop where
  | help
  | usage (fault : UsageFault)

namespace Settings

/-- The effect of an option without argument. -/
def set (settings : Settings) : Switch → Except Stop Settings
  | .help => .error .help
  | .strict => .ok { settings with strict := true }
  | .ignoreEnvironment => .ok { settings with ignoreEnvironment := true }
  | .verbose => .ok { settings with verbose := true }
  | .env | .input | .output => .ok settings

/-- Read a variable and its value, which an equals sign separates. -/
def readAssignment (argument : Text) : Except Stop (Name × Text) :=
  match argument.cutAtFirst '=' with
  | ([], _) | (_, none) => .error (.usage (.badAssignment .env argument))
  | (name, some value) => .ok (name, value)

/-- Add a variable. -/
def assign (settings : Settings) (assignment : Argument (Name × Text)) : Settings :=
  { settings with assignments := settings.assignments ++ [assignment] }

/-- The effect of an option with its argument. -/
def setTo (settings : Settings) (switch : Switch) (argument : Text) : Except Stop Settings :=
  let isMissing := argument = ['-', '-']
  match switch with
  | .env =>
    if isMissing then .ok (settings.assign .missing)
    else do return settings.assign (.given (← readAssignment argument))
  | .input =>
    let input := if isMissing then .missing else .given (.ofText argument)
    .ok { settings with input? := some input }
  | .output =>
    let output := if isMissing then .missing else .given (.ofText argument)
    .ok { settings with output? := some output }
  | .help | .strict | .ignoreEnvironment | .verbose => .ok settings

/--
Carry out items in order.  `unrecognized` holds the words that belong to no option, the last first.
-/
def carryOut (settings : Settings) (unrecognized : List Text) :
    List Item → Except Stop (Settings × List Text)
  | [] => .ok (settings, unrecognized.reverse)
  | .operand word :: rest => settings.carryOut (word :: unrecognized) rest
  | .separator :: rest => settings.carryOut (['-', '-'] :: unrecognized) rest
  | .unknown word :: rest => settings.carryOut (word :: unrecognized) rest
  | .switch first short joined? :: rest =>
    match readCluster first short joined? with
    | .error fault => .error (.usage fault)
    | .ok (taken, last) =>
      match last with
      | .complete => do (← taken.foldlM set settings).carryOut unrecognized rest
      | .argument switch argument => do
        let settings ← taken.foldlM set settings
        (← settings.setTo switch argument).carryOut unrecognized rest
      | .awaits switch =>
        match rest with
        | .operand argument :: rest => do
          let settings ← taken.foldlM set settings
          (← settings.setTo switch argument).carryOut unrecognized rest
        | _ => .error (.usage (.missingArgument switch))

/-- Read a command line. -/
def ofArguments (arguments : List Text) : Except Stop Settings :=
  match classify arguments with
  | .error fault => .error (.usage fault)
  | .ok items => do
    match ← carryOut {} [] items with
    | (settings, []) => return settings
    | (_, unrecognized) => .error (.usage (.unrecognized unrecognized))

end Settings

end ParameterExpansion.Command
