import ParameterExpansion.Command.Run

/-!
# The command

The process is a host: its variables, its files and its standard streams.
-/

namespace ParameterExpansion.Command

/-- The words about a failed access; the system's code 20, of either sign, is about a directory. -/
def accessText : IO.Error → Text
  | .noFileOrDirectory _ _ _ => "No such file or directory".toList
  | .inappropriateType _ code _ =>
    if code = 20 ∨ code = -20 then "Not a directory".toList else "Is a directory".toList
  | .permissionDenied _ _ _ => "Permission denied".toList
  | error => (toString error).toList

/-- Run an access to a file, keeping its failure as text. -/
def attempt {Result : Type} (access : IO Result) : IO (Except Text Result) := do
  try
    return .ok (← access)
  catch error =>
    return .error (accessText error)

/-- The process as a host. -/
def processHost : Host IO IO.FS.Handle where
  value? name := do
    let value? ← IO.getEnv (String.ofList name)
    return value?.map String.toList
  readInput := attempt do
    let bytes ← (← IO.getStdin).readBinToEnd
    return bytes.toList
  readFile path := attempt do
    let bytes ← IO.FS.readBinFile (String.ofList path.text)
    return bytes.toList
  openFile path := attempt (IO.FS.Handle.mk (String.ofList path.text) .write)
  writeFile handle content := attempt do
    handle.write content.toByteArray
    handle.flush
  print text := IO.print (String.ofList text)
  warn text := IO.eprint (String.ofList text)

end ParameterExpansion.Command

open ParameterExpansion.Command in
/-- Run the command with the arguments of the process. -/
def main (arguments : List String) : IO UInt32 := do
  match ← processHost.run (arguments.map String.toList) with
  | .ok status => return status.toUInt32
  | .error abort =>
    processHost.warn (complaint abort.message)
    return 1
