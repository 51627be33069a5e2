import ParameterExpansion.Command.Path

/-!
# Hosts

The command runs on a host, which has variables, files and standard streams.  It needs no more of the
host than a few operations, and leaves open what these do and how files are kept.  An operation on
files or on standard input may fail, and then the host gives the words for it.
-/

namespace ParameterExpansion.Command

/-- The operations of a host, as steps of a program.  A file is written through its handle. -/
structure Host (m : Type → Type) (Handle : Type) where
  value? : Name → m (Option Text)
  readInput : m (Except Text (List UInt8))
  readFile : Path → m (Except Text (List UInt8))
  openFile : Path → m (Except Text Handle)
  writeFile : Handle → List UInt8 → m (Except Text Unit)
  print : Text → m Unit
  warn : Text → m Unit

end ParameterExpansion.Command
