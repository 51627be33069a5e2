import ParameterExpansion.Text.Fingerprint

/-!
# Occurrences of a text in another

The first occurrence of a non-empty pattern cuts a text in two.  Cutting again what follows gives
the pieces between the leftmost occurrences that do not overlap; replacing all of them is joining
the pieces with the replacement.  The search compares fingerprints first, and the main statement
says that this finds the same occurrence as comparing texts at every place.
-/

namespace ParameterExpansion.Text

/--
The text before and after the first occurrence of a pattern.  `passed` holds the characters already
passed, the nearest first.
-/
def cutAround? (pattern : Text) (passed : Text) : Text → Option (Text × Text)
  | [] => if pattern.isEmpty then some (passed.reverse, []) else none
  | c :: rest =>
    if pattern.isPrefixOf (c :: rest) then some (passed.reverse, (c :: rest).drop pattern.length)
    else cutAround? pattern (c :: passed) rest

/-- What is left after the first occurrence of a non-empty pattern is shorter than the text. -/
theorem length_lt_of_cutAround?
    {pattern passed text before after : Text}
    (nonempty : pattern ≠ [])
    (cut : cutAround? pattern passed text = some (before, after)) :
    after.length < text.length := by
  induction text generalizing passed with
  | nil =>
    have : pattern.isEmpty = false := by simpa using nonempty
    simp [cutAround?, this] at cut
  | cons c rest ih =>
    simp only [cutAround?] at cut
    split at cut
    · have positive : 0 < pattern.length := List.length_pos_iff.mpr nonempty
      have same : (c :: rest).drop pattern.length = after := by
        simpa using congrArg (fun parts => parts.2) (Option.some.inj cut)
      have bound : after.length = (c :: rest).length - pattern.length := by
        rw [← same, List.length_drop]
      simp only [List.length_cons] at bound ⊢
      omega
    · have := ih cut
      simp only [List.length_cons]
      omega

/-- A pattern does not occur in a shorter text. -/
theorem cutAround?_eq_none_of_length_lt
    {pattern text : Text}
    (passed : Text)
    (shorter : text.length < pattern.length) :
    cutAround? pattern passed text = none := by
  induction text generalizing passed with
  | nil =>
    have : pattern.isEmpty = false := by
      cases pattern with
      | nil => simp at shorter
      | cons => rfl
    simp [cutAround?, this]
  | cons c rest ih =>
    have absent : pattern.isPrefixOf (c :: rest) = false := by
      apply Bool.eq_false_iff.mpr
      intro fits
      have := (List.isPrefixOf_iff_prefix.mp fits).length_le
      omega
    rw [cutAround?, absent]
    apply ih
    simp only [List.length_cons] at shorter
    omega

/--
Search for a pattern by fingerprints.  `target` is the fingerprint of the pattern and `leading` the
factor of its first character; `total` is the fingerprint of the characters in front of `ahead`,
which are as many as the pattern has.
-/
def searchFrom (pattern : Text) (target leading : UInt64) (passed : Text) (total : UInt64)
    (text ahead : Text) : Option (Text × Text) :=
  if total == target && pattern.isPrefixOf text then some (passed.reverse, ahead)
  else
    match text, ahead with
    | first :: rest, next :: ahead =>
      searchFrom pattern target leading (first :: passed)
        (Fingerprint.slide leading total first next) rest ahead
    | _, _ => none

/-- Searching by fingerprints finds the first occurrence. -/
theorem searchFrom_eq
    {pattern : Text}
    (nonempty : pattern ≠ [])
    (passed text : Text) :
    searchFrom pattern (Fingerprint.ofText pattern) (Fingerprint.factor (pattern.length - 1)) passed
        (Fingerprint.ofText (text.take pattern.length)) text (text.drop pattern.length) =
      cutAround? pattern passed text := by
  have positive : 0 < pattern.length := List.length_pos_iff.mpr nonempty
  induction text generalizing passed with
  | nil =>
    have : pattern.isEmpty = false := by simpa using nonempty
    have absent : pattern.isPrefixOf ([] : Text) = false := by
      cases pattern with
      | nil => simp at nonempty
      | cons => rfl
    simp [searchFrom, cutAround?, this, absent]
  | cons c rest ih =>
    rw [cutAround?]
    by_cases fits : pattern.isPrefixOf (c :: rest) = true
    · have window : (c :: rest).take pattern.length = pattern :=
        (List.prefix_iff_eq_take.mp (List.isPrefixOf_iff_prefix.mp fits)).symm
      unfold searchFrom
      simp [window, fits]
    · have absent : pattern.isPrefixOf (c :: rest) = false := Bool.eq_false_iff.mpr fits
      obtain ⟨count, size⟩ : ∃ count, pattern.length = count + 1 :=
        ⟨pattern.length - 1, by omega⟩
      unfold searchFrom
      simp only [absent, Bool.and_false, Bool.false_eq_true, if_false, size, List.drop_succ_cons,
        List.take_succ_cons, Nat.add_sub_cancel]
      by_cases short : rest.length ≤ count
      · rw [List.drop_eq_nil_of_le short]
        exact (cutAround?_eq_none_of_length_lt (c :: passed) (by omega)).symm
      · have inside : count < rest.length := by omega
        have taken : (rest.take count).length = count := by
          rw [List.length_take]
          omega
        have slid :=
          Fingerprint.slide_ofText c rest[count] (rest.take count)
        rw [taken, ← List.take_succ_eq_append_getElem inside] at slid
        rw [List.drop_eq_getElem_cons inside]
        have next := ih (c :: passed)
        rw [size, Nat.add_sub_cancel] at next
        simp only [slid]
        exact next

/-- The text before and after the first occurrence of a non-empty pattern. -/
def cut? (pattern text : Text) : Option (Text × Text) :=
  searchFrom pattern (Fingerprint.ofText pattern) (Fingerprint.factor (pattern.length - 1)) []
    (Fingerprint.ofText (text.take pattern.length)) text (text.drop pattern.length)

/-- Cutting a text compares the pattern with the text at every place. -/
theorem cut?_eq
    {pattern : Text}
    (nonempty : pattern ≠ [])
    (text : Text) :
    cut? pattern text = cutAround? pattern [] text :=
  searchFrom_eq nonempty [] text

/--
The pieces of a text between the leftmost occurrences of a non-empty pattern that do not overlap.
An empty pattern separates nothing.  `done` holds the pieces found before, the last first.
-/
def separateFrom (pattern : Text) (done : List Text) (text : Text) : List Text :=
  if nonempty : pattern = [] then (text :: done).reverse
  else
    match cut : cut? pattern text with
    | none => (text :: done).reverse
    | some (before, after) =>
      have := length_lt_of_cutAround? nonempty (cut?_eq nonempty text ▸ cut)
      separateFrom pattern (before :: done) after
termination_by text.length

/-- The pieces of a text between the leftmost occurrences of a pattern that do not overlap. -/
def separate (text pattern : Text) : List Text :=
  separateFrom pattern [] text

/-- Replace the first occurrence of a non-empty pattern in a text. -/
def replaceFirst (text pattern replacement : Text) : Text :=
  match cut? pattern text with
  | none => text
  | some (before, after) => before ++ replacement ++ after

/-- Replace the leftmost occurrences of a non-empty pattern that do not overlap. -/
def replaceAll (text pattern replacement : Text) : Text :=
  replacement.intercalate (text.separate pattern)

end ParameterExpansion.Text
