/-!
# Text

Text is a list of characters, so every length, offset and position in this library counts
characters.  A character is a code point that is no surrogate: a surrogate without its other half is
no character and cannot be written as UTF-8, and no text holds one.  A host that can put such halves
into arguments, variables or values has to reject them before they become text.

This module fixes the type and the cuts that several readers share: at the first occurrence of a
mark, at every occurrence, and around surrounding blanks.
-/

namespace ParameterExpansion

/-- Text as a list of characters, which are the code points except for surrogates. -/
abbrev Text := List Char

/-- The name of a variable. -/
abbrev Name := Text

/-- Cut text at the first occurrence of a mark; without one there is no second part. -/
def Text.cutAtFirst (mark : Char) (text : Text) : Text × Option Text :=
  match text.dropWhile (· != mark) with
  | [] => (text, none)
  | _ :: tail => (text.takeWhile (· != mark), some tail)

/-- The pieces of a text between the occurrences of a mark; there is always at least one. -/
def Text.splitOn (mark : Char) (text : Text) : List Text :=
  text.foldr
    (fun c pieces =>
      if c = mark then [] :: pieces
      else
        match pieces with
        | piece :: rest => (c :: piece) :: rest
        | [] => [[c]])
    [[]]

/-- Drop leading and trailing characters of a class. -/
def Text.trim (drops : Char → Bool) (text : Text) : Text :=
  ((text.dropWhile drops).reverse.dropWhile drops).reverse

end ParameterExpansion
