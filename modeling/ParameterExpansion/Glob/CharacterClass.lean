import ParameterExpansion.Character.Numeric
import ParameterExpansion.Character.Blank
import ParameterExpansion.Character.Printable
import ParameterExpansion.Character.Case
import ParameterExpansion.Text.Basic

/-!
# Named character classes

A bracket expression may name a class of characters, as in `[[:alpha:]]`.  Letters, case, white
space and printability follow the Unicode properties; digits, hexadecimal digits, punctuation,
blanks and controls are those of ASCII.
-/

namespace ParameterExpansion.Glob

/-- The twelve classes that a bracket expression can name. -/
inductive CharacterClass where
  | alpha
  | digit
  | alnum
  | upper
  | lower
  | space
  | blank
  | punct
  | graph
  | print
  | cntrl
  | xdigit
  deriving DecidableEq, Repr

namespace CharacterClass

/-- Every class. -/
def all : List CharacterClass :=
  [alpha, digit, alnum, upper, lower, space, blank, punct, graph, print, cntrl, xdigit]

/-- The name of a class between `[:` and `:]`. -/
def name : CharacterClass → Text
  | alpha => ['a', 'l', 'p', 'h', 'a']
  | digit => ['d', 'i', 'g', 'i', 't']
  | alnum => ['a', 'l', 'n', 'u', 'm']
  | upper => ['u', 'p', 'p', 'e', 'r']
  | lower => ['l', 'o', 'w', 'e', 'r']
  | space => ['s', 'p', 'a', 'c', 'e']
  | blank => ['b', 'l', 'a', 'n', 'k']
  | punct => ['p', 'u', 'n', 'c', 't']
  | graph => ['g', 'r', 'a', 'p', 'h']
  | print => ['p', 'r', 'i', 'n', 't']
  | cntrl => ['c', 'n', 't', 'r', 'l']
  | xdigit => ['x', 'd', 'i', 'g', 'i', 't']

/-- The class holds the character. -/
def contains (c : Char) : CharacterClass → Bool
  | alpha => Character.isLetter c
  | digit => '0' ≤ c && c ≤ '9'
  | alnum => Character.isAlphanumeric c
  | upper => Character.isUppercase c
  | lower => Character.isLowercase c
  | space => Character.isBlank c
  | blank => c == ' ' || c == '\t'
  | punct => c.toNat < 128 && Character.isPrintable c && !Character.isAlphanumeric c && c != ' '
  | graph => Character.isPrintable c && !Character.isBlank c
  | print => Character.isPrintable c
  | cntrl => c.toNat < 32 || c.toNat == 127
  | xdigit => '0' ≤ c && c ≤ '9' || 'a' ≤ c && c ≤ 'f' || 'A' ≤ c && c ≤ 'F'

/-- A class as a bracket expression writes it, without the `[:` in front. -/
def closing (kind : CharacterClass) : Text :=
  kind.name ++ [':', ']']

/-- Read a class whose `[:` has been read: the class and the text after its `:]`. -/
def read? (text : Text) : Option (CharacterClass × Text) :=
  match all.find? (fun kind => kind.closing.isPrefixOf text) with
  | none => none
  | some kind => some (kind, text.drop kind.closing.length)

/-- What follows a class is shorter than the text it was read from. -/
theorem length_lt_of_read?
    {text rest : Text} {kind : CharacterClass}
    (found : read? text = some (kind, rest)) :
    rest.length < text.length := by
  simp only [read?] at found
  split at found
  · simp at found
  · rename_i kind' isFirst
    have fits := List.find?_some isFirst
    obtain ⟨tail, rfl⟩ := List.isPrefixOf_iff_prefix.mp fits
    simp only [Option.some.injEq, Prod.mk.injEq, List.drop_left] at found
    obtain ⟨_, rfl⟩ := found
    simp only [List.length_append, closing, List.length_cons, List.length_nil]
    omega

end CharacterClass

end ParameterExpansion.Glob
