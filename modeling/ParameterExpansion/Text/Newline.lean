import ParameterExpansion.Text.Basic

/-!
# Line ends

A line may end in a line feed, a carriage return or both in that order.  Reading makes each of these
one line feed.
-/

namespace ParameterExpansion.Text

/-- Text with every line end written as a line feed. -/
def unifyNewlines (text : Text) : Text :=
  go [] text
where
  /-- `done` holds the text made, the last character first. -/
  go (done : Text) : Text → Text
    | '\r' :: '\n' :: rest => go ('\n' :: done) rest
    | '\r' :: rest => go ('\n' :: done) rest
    | c :: rest => go (c :: done) rest
    | [] => done.reverse

end ParameterExpansion.Text
