import ParameterExpansion.Command.Run

/-!
# Hosts made of a file system

A file system gives the content of a file under a path, opens a file to be written, and appends to a
file that is open.  Nothing is said here about what it does.  With the variables of the process and
what stands on standard input it makes a host, which keeps the files and all that was said.
-/

namespace ParameterExpansion.Command

/-- Access to files.  Opening a file to write it may change the files, and so may writing it. -/
structure FileSystem (Files File : Type) where
  read : Path → Files → Except Text (List UInt8)
  openFile : Path → Files → Except Text (File × Files)
  append : File → List UInt8 → Files → Except Text Unit × Files

/-- What a run of the command leaves behind. -/
structure Remains (Files : Type) where
  files : Files
  stdout : Text := []
  stderr : Text := []

namespace FileSystem

variable {Files File : Type}

/-- The host with the files of a file system, with variables and with standard input. -/
def host (fileSystem : FileSystem Files File) (environment : Variables)
    (stdin : Except Text (List UInt8)) : Host (StateM (Remains Files)) File where
  value? name := return environment.get? name
  readInput := return stdin
  readFile path := return fileSystem.read path (← get).files
  openFile path := fun remains =>
    match fileSystem.openFile path remains.files with
    | .error words => (.error words, remains)
    | .ok (file, files) => (.ok file, { remains with files })
  writeFile file content := fun remains =>
    let (result, files) := fileSystem.append file content remains.files
    (result, { remains with files })
  print text := modify fun remains => { remains with stdout := remains.stdout ++ text }
  warn text := modify fun remains => { remains with stderr := remains.stderr ++ text }

/-- Run the command on files. -/
def run (fileSystem : FileSystem Files File) (environment : Variables)
    (stdin : Except Text (List UInt8)) (files : Files) (arguments : List Text) :
    Except Abort Nat × Remains Files :=
  ((fileSystem.host environment stdin).run arguments).run { files }

end FileSystem

end ParameterExpansion.Command
