import ParameterExpansion.Text.Basic

/-!
# File paths

A path is a root, which relative paths lack, and components.  Empty components and single dots are
dropped when a path is read; two dots are kept, because what they lead to depends on the files.
-/

namespace ParameterExpansion.Command

/-- A file path.  The root is empty, one slash or two slashes. -/
structure Path where
  root : Text
  components : List Text
  deriving DecidableEq, Repr

namespace Path

/-- The root of a path: two slashes are kept apart from one, more than two count as one. -/
def rootOf (text : Text) : Text :=
  match text.takeWhile (· == '/') with
  | [] => []
  | ['/', '/'] => ['/', '/']
  | _ => ['/']

/-- Read a path. -/
def ofText (text : Text) : Path :=
  ⟨rootOf text,
    (text.splitOn '/').filter fun component => component ≠ [] ∧ component ≠ ['.']⟩

/-- Write a path; the path of the working directory is a dot. -/
def text (path : Path) : Text :=
  match path.root, path.components with
  | [], [] => ['.']
  | root, components => root ++ ['/'].intercalate components

/-- No file has a path in which a character is zero. -/
def hasZero (path : Path) : Bool :=
  path.text.contains '\x00'

end Path

end ParameterExpansion.Command
