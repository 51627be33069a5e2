import ParameterExpansion.Character.Printable
import ParameterExpansion.Text.Basic

/-!
# Quoted text

Text is shown between quotes.  Single quotes are used unless the text holds a single quote and no
double quote.  The quote in use and the backslash follow a backslash; tab, line feed and carriage
return have letters of their own; any other character without a visible form is given by its code
point in hexadecimal digits.
-/

namespace ParameterExpansion.Text.Quoted

/-- The quote that surrounds a text. -/
def quoteOf (text : Text) : Char :=
  if text.contains '\'' && !text.contains '"' then '"' else '\''

/-- A code point as a fixed number of hexadecimal digits after a backslash and a letter. -/
def hexadecimal (letter : Char) (width : Nat) (c : Char) : Text :=
  '\\' :: letter :: (Nat.toDigits 16 c.toNat).leftpad width '0'

/-- One character as it stands between quotes. -/
def encodeChar (quote c : Char) : Text :=
  if c = quote ∨ c = '\\' then ['\\', c]
  else if c = '\t' then ['\\', 't']
  else if c = '\n' then ['\\', 'n']
  else if c = '\r' then ['\\', 'r']
  else if Character.isPrintable c then [c]
  else if c.toNat < 0x100 then hexadecimal 'x' 2 c
  else if c.toNat < 0x10000 then hexadecimal 'u' 4 c
  else hexadecimal 'U' 8 c

/-- Text between quotes. -/
def encode (text : Text) : Text :=
  let quote := quoteOf text
  quote :: text.flatMap (encodeChar quote) ++ [quote]

end ParameterExpansion.Text.Quoted
