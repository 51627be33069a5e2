import ParameterExpansion.Character.Case
import ParameterExpansion.Character.CaseIgnorable
import ParameterExpansion.Character.CaseMapping
import ParameterExpansion.Text.Basic

/-!
# Case conversion of text

A text changes case character by character.  One rule looks at context: the Greek capital sigma has
two lower case forms, and the one for the end of a word is used where a cased letter comes before it
and none comes after it, characters that case rules skip left aside.
-/

namespace ParameterExpansion.Text

/-- Text in upper case. -/
def toUpper (text : Text) : Text :=
  text.flatMap Character.upper

/-- A cased letter comes next, after characters that case rules skip. -/
def casedNext (text : Text) : Bool :=
  match text.dropWhile Character.isCaseIgnorable with
  | [] => false
  | c :: _ => Character.isCased c

/-- Text in lower case. -/
def toLower (text : Text) : Text :=
  go [] false text
where
  /-- `done` holds the forms made, the nearest first; `casedBefore` says that a cased letter came
  before, characters that case rules skip left aside. -/
  go (done : List Text) (casedBefore : Bool) : Text → Text
    | [] => done.reverse.flatten
    | c :: rest =>
      let form :=
        if c = 'Σ' then (if casedBefore && !casedNext rest then ['ς'] else ['σ'])
        else Character.lower c
      go (form :: done) (if Character.isCaseIgnorable c then casedBefore else Character.isCased c)
        rest

/-- Change the first character of a text, seen alone, and keep the others. -/
def mapFirst (change : Char → Text) : Text → Text
  | [] => []
  | c :: rest => change c ++ rest

end ParameterExpansion.Text
