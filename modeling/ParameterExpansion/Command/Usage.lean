import ParameterExpansion.Command.Options

/-!
# Usage and help

The texts that explain the command line, laid out for eighty columns.
-/

namespace ParameterExpansion.Command

/-- The name of the command. -/
def commandName : Text := "envsubst".toList

/-- Lines, each with a line end. -/
def lines (texts : List String) : Text :=
  texts.flatMap fun text => text.toList ++ ['\n']

/-- The usage summary. -/
def usage : Text :=
  lines [
    "usage: envsubst [-h] [--strict] [--env NAME=VALUE] [--ignore-environment]",
    "                [--input INPUT] [--output OUTPUT] [--verbose]"]

/-- The help text: usage, purpose and every option. -/
def help : Text :=
  usage ++ lines [
    "",
    "Substitute $\x7b...\x7d parameter expansions with environment variables.",
    "",
    "options:",
    "  -h, --help            show this help message and exit",
    "  --strict, -s          Fail on variables that are not set and have no default",
    "  --env NAME=VALUE, -e NAME=VALUE",
    "                        Set a variable (may be repeated; overrides the",
    "                        environment)",
    "  --ignore-environment  Do not read variables from the process environment",
    "  --input INPUT, -i INPUT",
    "                        Template file (default: stdin)",
    "  --output OUTPUT, -o OUTPUT",
    "                        Output file (default: stdout)",
    "  --verbose, -v         Enable debug logging"]

/-- What is printed about a faulty command line. -/
def UsageFault.report (fault : UsageFault) : Text :=
  usage ++ commandName ++ ": error: ".toList ++ fault.message ++ ['\n']

end ParameterExpansion.Command
