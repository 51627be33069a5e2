import ParameterExpansion.Character.Ranges

/-!
# White space

The characters that separate words in running text: those of bidirectional class `WS`, `B` or `S`
or of general category `Zs`.  The four information separators U+001C to U+001F are among them.
-/

namespace ParameterExpansion.Character

/-- The white space characters, as ranges of code points in ascending order. -/
def blankRanges : Ranges :=
  [
    (0x0009, 0x000D), (0x001C, 0x0020), (0x0085, 0x0085), (0x00A0, 0x00A0), (0x1680, 0x1680),
    (0x2000, 0x200A), (0x2028, 0x2029), (0x202F, 0x202F), (0x205F, 0x205F), (0x3000, 0x3000)
  ]

/-- White space of every kind. -/
def isBlank (c : Char) : Bool :=
  blankRanges.contains c

end ParameterExpansion.Character
