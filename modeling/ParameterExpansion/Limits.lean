/-!
# Limits

Reading a template is bounded by how deep expansions may be nested in each other's words and by how
long the template may be.  A limit may be negative, and then nothing satisfies it.

Nothing but the nesting limit bounds how deep parsing and expanding call themselves.  Here there is
room for every depth; a host whose stack is bounded needs a nesting limit that its stack has room
for.
-/

namespace ParameterExpansion

/-- The greatest nesting depth and the greatest length of a template that are accepted. -/
structure Limits where
  nesting : Int := 32
  size : Int := 10000000
  deriving DecidableEq, Repr

end ParameterExpansion
