import ParameterExpansion.Text.Basic

/-!
# Fingerprints of text

A fingerprint is a number made from all characters of a text.  Texts with different fingerprints
differ, and the fingerprint of a window that moves along a text by one character follows from the
one before, so a window is compared with another text without reading it again.
-/

namespace ParameterExpansion.Text.Fingerprint

/-- The factor by which a character counts more than the one after it. -/
def base : UInt64 := 1000003

/-- What one character counts. -/
def weight (c : Char) : UInt64 :=
  c.val.toUInt64

/-- The factor of a character with a given number of characters after it. -/
def factor : Nat → UInt64
  | 0 => 1
  | count + 1 => base * factor count

/-- The fingerprint of a text. -/
def ofText (text : Text) : UInt64 :=
  text.foldl (fun total c => total * base + weight c) 0

/-- The fingerprint of a window after it has lost its first character and gained another. -/
def slide (leading total : UInt64) (first next : Char) : UInt64 :=
  (total - weight first * leading) * base + weight next

/-- A character at the end. -/
theorem ofText_concat (text : Text) (c : Char) :
    ofText (text ++ [c]) = ofText text * base + weight c := by
  simp [ofText]

/-- Continuing from a number adds that number with the factor of the text. -/
theorem foldl_eq (total : UInt64) (text : Text) :
    text.foldl (fun total c => total * base + weight c) total =
      total * factor text.length + ofText text := by
  induction text generalizing total with
  | nil => simp [ofText, factor]
  | cons c rest ih =>
    have split : ofText (c :: rest) = weight c * factor rest.length + ofText rest := by
      rw [ofText, List.foldl_cons, ih]
      grind
    rw [List.foldl_cons, ih, split, List.length_cons, factor]
    grind

/-- A character at the front. -/
theorem ofText_cons (c : Char) (text : Text) :
    ofText (c :: text) = weight c * factor text.length + ofText text := by
  rw [ofText, List.foldl_cons, foldl_eq]
  grind

/-- Sliding gives the fingerprint of the new window. -/
theorem slide_ofText (first next : Char) (rest : Text) :
    slide (factor rest.length) (ofText (first :: rest)) first next = ofText (rest ++ [next]) := by
  rw [slide, ofText_cons, ofText_concat]
  grind

end ParameterExpansion.Text.Fingerprint
