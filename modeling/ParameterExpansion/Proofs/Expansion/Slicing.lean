import Mathlib.Data.List.DropRight
import ParameterExpansion.Proofs.Expansion.WrittenExpansion
import ParameterExpansion.Proofs.Template.SubstringText

/-!
# Slices of a value

What a substring expression gives for offsets and lengths of any sign and size.  An offset names a
place in the value or lies outside; a slice with a length is the beginning of the slice without one,
or that slice without its end.  Two slices that meet at a place make up the value.
-/

namespace ParameterExpansion.Expansion

open Template

/-! ## Places -/

/-- The place that an offset names: a negative one counts from the end of the value. -/
def placeOf (value : Text) (offset : Int) : Int :=
  if offset < 0 then offset + value.length else offset

/-- The place that an offset names is one of the value, its end included. -/
def IsInside (value : Text) (offset : Int) : Prop :=
  0 ≤ placeOf value offset ∧ placeOf value offset ≤ value.length

instance (value : Text) (offset : Int) : Decidable (IsInside value offset) :=
  inferInstanceAs (Decidable (_ ∧ _))

theorem placeOf_natCast (value : Text) (count : Nat) :
    placeOf value count = count := by
  rw [placeOf, if_neg (Int.not_lt.mpr (Int.natCast_nonneg count))]

theorem placeOf_neg_natCast
    {count : Nat}
    (positive : 1 ≤ count)
    (value : Text) :
    placeOf value (-count) = -count + value.length := by
  have negative : -(count : Int) < 0 := by omega
  rw [placeOf, if_pos negative]

section Slices

variable {value : Text} {offset length : Int}

theorem startOf?_of_inside
    (inside : IsInside value offset) :
    startOf? value offset = some (placeOf value offset).toNat := by
  exact if_neg (not_or.mpr ⟨Int.not_lt.mpr inside.1, Int.not_lt.mpr inside.2⟩)

theorem startOf?_of_not_inside
    (outside : ¬ IsInside value offset) :
    startOf? value offset = none := by
  rw [IsInside, not_and_or] at outside
  exact if_pos (outside.imp Int.not_le.mp Int.not_le.mp)

/-- A slice without a length goes on to the end of the value. -/
theorem substring_none_of_inside
    (inside : IsInside value offset) :
    substring value offset none = .ok (value.drop (placeOf value offset).toNat) := by
  rw [substring, startOf?_of_inside inside]

/-- Outside the value there is nothing, whatever the length is. -/
theorem substring_of_not_inside
    (outside : ¬ IsInside value offset)
    (length? : Option Int) :
    substring value offset length? = .ok [] := by
  rw [substring, startOf?_of_not_inside outside]

/-- The slice from an offset to the end of the value, which is empty outside. -/
theorem exists_substring_none (value : Text) (offset : Int) :
    ∃ rest, substring value offset none = .ok rest := by
  by_cases inside : IsInside value offset
  · exact ⟨_, substring_none_of_inside inside⟩
  · exact ⟨_, substring_of_not_inside inside none⟩

/-- A length that is not negative takes the first characters. -/
theorem substring_some_natCast
    {rest : Text}
    (whole : substring value offset none = .ok rest)
    (count : Nat) :
    substring value offset (some count) = .ok (rest.take count) := by
  by_cases inside : IsInside value offset
  · rw [substring_none_of_inside inside] at whole
    cases whole
    have notNegative : ¬ (count : Int) < 0 := Int.not_lt.mpr (Int.natCast_nonneg count)
    rw [substring, startOf?_of_inside inside]
    simp only [if_neg notNegative, Int.toNat_natCast]
  · rw [substring_of_not_inside inside] at whole ⊢
    cases whole
    rw [List.take_nil]

/-- A negative length that ends in front of the offset is a fault, if the offset is inside. -/
theorem substring_some_of_early
    (negative : length < 0)
    (inside : IsInside value offset)
    (early : value.length + length < placeOf value offset) :
    substring value offset (some length) = .error (.negativeLength length) := by
  have before : (value.length : Int) + length < ((placeOf value offset).toNat : Int) := by
    rwa [Int.toNat_of_nonneg inside.1]
  rw [substring, startOf?_of_inside inside]
  simp only [if_pos negative, if_pos before]

/-- Every other negative length takes characters off the end. -/
theorem substring_some_of_not_early
    {rest : Text}
    (negative : length < 0)
    (late : ¬ (IsInside value offset ∧ value.length + length < placeOf value offset))
    (whole : substring value offset none = .ok rest) :
    substring value offset (some length) = .ok (rest.rdrop length.natAbs) := by
  by_cases inside : IsInside value offset
  · rw [substring_none_of_inside inside] at whole
    cases whole
    have notEarly : placeOf value offset ≤ value.length + length :=
      Int.not_lt.mp fun early => late ⟨inside, early⟩
    have notBefore : ¬ (value.length : Int) + length < ((placeOf value offset).toNat : Int) := by
      rwa [Int.toNat_of_nonneg inside.1, Int.not_lt]
    have bound := inside.1
    have kept : ((value.length : Int) + length).toNat - (placeOf value offset).toNat =
        (value.drop (placeOf value offset).toNat).length - length.natAbs := by
      rw [List.length_drop]
      omega
    rw [substring, startOf?_of_inside inside]
    simp only [if_pos negative, if_neg notBefore]
    rw [List.drop_take, kept, List.rdrop]
  · rw [substring_of_not_inside inside] at whole ⊢
    cases whole
    rw [List.rdrop_nil]

/-- Without a length, an offset that is not negative drops the first characters. -/
theorem substring_natCast (value : Text) (count : Nat) :
    substring value count none = .ok (value.drop count) := by
  have place := placeOf_natCast value count
  by_cases inside : IsInside value count
  · rw [substring_none_of_inside inside, place, Int.toNat_natCast]
  · have beyond : value.length ≤ count := by
      rw [IsInside, place] at inside
      omega
    rw [substring_of_not_inside inside, List.drop_eq_nil_of_le beyond]

/-- Without a length, a negative offset that is inside keeps the last characters. -/
theorem substring_neg_natCast
    {count : Nat}
    (positive : 1 ≤ count)
    (fits : count ≤ value.length) :
    substring value (-count) none = .ok (value.rtake count) := by
  have place := placeOf_neg_natCast positive value
  have inside : IsInside value (-count) := by
    rw [IsInside, place]
    omega
  have start : (-(count : Int) + value.length).toNat = value.length - count := by omega
  rw [substring_none_of_inside inside, place, start, List.rtake]

/-- The slice from the start that ends a number of characters in front of the end. -/
theorem substring_zero_neg_natCast
    {count : Nat}
    (positive : 1 ≤ count)
    (fits : count ≤ value.length) :
    substring value 0 (some (-count)) = .ok (value.rdrop count) := by
  have negative : -(count : Int) < 0 := by omega
  have place : placeOf value 0 = 0 := placeOf_natCast value 0
  have late : ¬ (IsInside value 0 ∧ value.length + -(count : Int) < placeOf value 0) := by
    rw [place]
    omega
  have whole : substring value 0 none = .ok value := substring_natCast value 0
  rw [substring_some_of_not_early negative late whole, Int.natAbs_neg, Int.natAbs_natCast]

end Slices

/-! ## Templates -/

theorem isReadable_neg {number : Int} : IsReadable (-number) ↔ IsReadable number := by
  rw [IsReadable, IsReadable, Int.natAbs_neg]

/-- The decimal text of a number behind a blank. -/
def blankDecimal (number : Int) : Text :=
  ' ' :: Text.Decimal.ofInt number

/-- The decimal text of an offset and, behind a colon, of a length, each behind a blank. -/
def sliceText (offset : Int) : Option Int → Text
  | none => blankDecimal offset
  | some length => blankDecimal offset ++ ':' :: blankDecimal length

/-- The template of a slice of a variable. -/
def sliceTemplate (name : Name) (offset : Int) (length? : Option Int) : Text :=
  enclose (name ++ ':' :: sliceText offset length?)

theorem isOrdinary_of_mem_blankDecimal
    {number : Int} {c : Char}
    (member : c ∈ blankDecimal number) :
    IsOrdinary c := by
  rcases List.mem_cons.mp member with rfl | member
  · decide
  · exact isOrdinary_of_mem_ofInt member

theorem isOrdinary_of_mem_sliceText
    {offset : Int} {length? : Option Int} {c : Char}
    (member : c ∈ sliceText offset length?) :
    IsOrdinary c := by
  cases length? with
  | none => exact isOrdinary_of_mem_blankDecimal member
  | some length =>
      rcases List.mem_append.mp member with member | member
      · exact isOrdinary_of_mem_blankDecimal member
      · rcases List.mem_cons.mp member with rfl | member
        · decide
        · exact isOrdinary_of_mem_blankDecimal member

theorem balanced_sliceText
    {name : Name}
    (isName : IsName name)
    (offset : Int)
    (length? : Option Int) :
    Balanced (name ++ ':' :: sliceText offset length?) := by
  apply Balanced.append_ordinary fun c => isName.isOrdinary
  apply balanced_of_isOrdinary
  exact List.forall_mem_cons.mpr ⟨by decide, fun c => isOrdinary_of_mem_sliceText⟩

theorem length_blankDecimal_le
    {number : Int}
    (readable : IsReadable number) :
    (blankDecimal number).length ≤ maximumDigits + 2 := by
  rw [blankDecimal, List.length_cons]
  cases number with
  | ofNat magnitude => exact Nat.succ_le_succ (Nat.le_succ_of_le readable)
  | negSucc magnitude => exact Nat.succ_le_succ (Nat.succ_le_succ readable)

/-- Numbers that are read leave the template short. -/
theorem length_sliceTemplate_le
    {offset : Int} {length? : Option Int}
    (name : Name)
    (readable : IsReadable offset)
    (readableLength : ∀ length ∈ length?, IsReadable length) :
    (sliceTemplate name offset length?).length ≤ name.length + 2 * maximumDigits + 9 := by
  have offsetBound := length_blankDecimal_le readable
  rw [sliceTemplate, length_enclose, List.length_append, List.length_cons]
  cases length? with
  | none =>
      rw [sliceText]
      omega
  | some length =>
      have lengthBound := length_blankDecimal_le (readableLength length rfl)
      rw [sliceText, List.length_append, List.length_cons]
      omega

theorem cutsAt_sliceText (offset : Int) (length? : Option Int) :
    Text.CutsAt ':' (sliceText offset length?) (blankDecimal offset) (length?.map blankDecimal) := by
  have absent : ':' ∉ blankDecimal offset := colon_not_mem_blank_ofInt offset
  cases length? with
  | none => exact .whole absent
  | some length => exact .parts absent (blankDecimal length)

theorem readSubstring_sliceText
    {offset : Int} {length? : Option Int}
    (readable : IsReadable offset)
    (readableLength : ∀ length ∈ length?, IsReadable length)
    (expansion : Text) :
    readSubstring expansion (sliceText offset length?) = .ok (.substring offset length?) := by
  apply (readSubstring_eq_ok_iff (cutsAt_sliceText offset length?)).mpr
  refine ⟨offset, length?, standsFor_blank_ofInt readable, ?_, rfl⟩
  cases length? with
  | none => exact .none
  | some length => exact .some (standsFor_blank_ofInt (readableLength length rfl))

theorem readBody_sliceText
    {name : Name} {offset : Int} {length? : Option Int}
    (isName : IsName name)
    (readable : IsReadable offset)
    (readableLength : ∀ length ∈ length?, IsReadable length) :
    readBody (name ++ ':' :: sliceText offset length?) = .ok (name, .substring offset length?) := by
  have nonempty : sliceText offset length? ≠ [] := by
    cases length? <;> exact List.cons_ne_nil _ _
  have unsigned : ∀ c ∈ (sliceText offset length?).head?, c ∉ ['=', '-', '+', '?'] := by
    cases length? <;> · rintro c ⟨⟩; decide
  rw [readBody_colon isName nonempty unsigned, readSubstring_sliceText readable readableLength]
  rfl

section Templates

variable {limits : Limits} {name : Name} {bindings : Variables} {value : Text}
  {offset : Int} {length? : Option Int}
  (isName : IsName name)
  (nests : 0 ≤ limits.nesting)
  (room : ((name.length + 2 * maximumDigits + 9 : Nat) : Int) ≤ limits.size)
  (present : bindings.get? name = some value)

include isName nests room present

/-- The template gives the slice of the value, in both modes. -/
theorem expandWith_sliceTemplate
    (readable : IsReadable offset)
    (readableLength : ∀ length ∈ length?, IsReadable length)
    (mode : Mode) :
    expandWith limits mode bindings (sliceTemplate name offset length?) =
      (substring value offset length?).mapError
        (.invalid (sliceTemplate name offset length?)) := by
  have bound := length_sliceTemplate_le name readable readableLength
  have fits : ((sliceTemplate name offset length?).length : Int) ≤ limits.size :=
    (Int.ofNat_le.mpr bound).trans room
  have parsed := parseText_enclose (balanced_sliceText isName offset length?)
    (readBody_sliceText isName readable readableLength) (.substring offset length?) nests fits
  have reply : (bindings.asSource name ()).1.value? = some value :=
    (bindings.value?_asSource name ()).trans present
  rw [expandWith, sliceTemplate, expand_of_parseText_eq_ok parsed, expandWord_singleton, expandPart,
    expandOperation, Dialogue.outcome_run_ask fun _ => Reply.isSet_of_value? reply, reply,
    Option.getD_some]
  cases substring value offset length? <;> rfl

theorem expandWith_sliceTemplate_none
    {rest : Text}
    (whole : substring value offset none = .ok rest)
    (readable : IsReadable offset)
    (mode : Mode) :
    expandWith limits mode bindings (sliceTemplate name offset none) = .ok rest := by
  have noLength : ∀ length ∈ (none : Option Int), IsReadable length := by
    rintro length ⟨⟩
  rw [expandWith_sliceTemplate isName nests room present readable noLength mode, whole]
  rfl

theorem expandWith_sliceTemplate_some
    {length : Int}
    (readable : IsReadable offset)
    (readableLength : IsReadable length)
    (mode : Mode) :
    expandWith limits mode bindings (sliceTemplate name offset (some length)) =
      (substring value offset (some length)).mapError
        (.invalid (sliceTemplate name offset (some length))) := by
  apply expandWith_sliceTemplate isName nests room present readable _ mode
  rintro _ ⟨⟩
  exact readableLength

/-- The first characters, and the slice that starts behind them. -/
theorem expandWith_slices_meet
    {count : Nat}
    (readable : IsReadable count)
    (mode : Mode) :
    (do
      let front ← expandWith limits mode bindings (sliceTemplate name 0 (some count))
      let back ← expandWith limits mode bindings (sliceTemplate name count none)
      return front ++ back) = .ok value := by
  have whole : substring value 0 none = .ok value := substring_natCast value 0
  have front :
      expandWith limits mode bindings (sliceTemplate name 0 (some count)) =
        .ok (value.take count) := by
    rw [expandWith_sliceTemplate_some isName nests room present (by decide) readable mode,
      substring_some_natCast whole]
    rfl
  have back := expandWith_sliceTemplate_none isName nests room present
    (substring_natCast value count) readable mode
  rw [front, back]
  exact congrArg Except.ok (List.take_append_drop count value)

/-- What is in front of the last characters, and the slice of these. -/
theorem expandWith_slices_meet_at_end
    {count : Nat}
    (readable : IsReadable count)
    (positive : 1 ≤ count)
    (fits : count ≤ value.length)
    (mode : Mode) :
    (do
      let front ← expandWith limits mode bindings (sliceTemplate name 0 (some (-count)))
      let back ← expandWith limits mode bindings (sliceTemplate name (-count) none)
      return front ++ back) = .ok value := by
  have readableNeg : IsReadable (-count) := isReadable_neg.mpr readable
  have front :
      expandWith limits mode bindings (sliceTemplate name 0 (some (-count))) =
        .ok (value.rdrop count) := by
    rw [expandWith_sliceTemplate_some isName nests room present (by decide) readableNeg mode,
      substring_zero_neg_natCast positive fits]
    rfl
  have back := expandWith_sliceTemplate_none isName nests room present
    (substring_neg_natCast positive fits) readableNeg mode
  rw [front, back]
  exact congrArg Except.ok (List.take_append_drop (value.length - count) value)

/-- A slice with a length, stated on the slice without one. -/
theorem expandWith_slice_of_none
    {rest : Text}
    (whole : substring value offset none = .ok rest)
    (readable : IsReadable offset)
    (mode : Mode) :
    (∀ count : Nat, IsReadable count →
      expandWith limits mode bindings (sliceTemplate name offset (some count)) =
        .ok (rest.take count)) ∧
    ∀ length < 0, IsReadable length →
      (IsInside value offset ∧ value.length + length < placeOf value offset →
        expandWith limits mode bindings (sliceTemplate name offset (some length)) =
          .error (.invalid (sliceTemplate name offset (some length)) (.negativeLength length))) ∧
      (¬ (IsInside value offset ∧ value.length + length < placeOf value offset) →
        expandWith limits mode bindings (sliceTemplate name offset (some length)) =
          .ok (rest.rdrop length.natAbs)) := by
  constructor
  · intro count readableCount
    rw [expandWith_sliceTemplate_some isName nests room present readable readableCount mode,
      substring_some_natCast whole]
    rfl
  · intro length negative readableLength
    rw [expandWith_sliceTemplate_some isName nests room present readable readableLength mode]
    constructor
    · rintro ⟨inside, early⟩
      rw [substring_some_of_early negative inside early]
      rfl
    · intro late
      rw [substring_some_of_not_early negative late whole]
      rfl

end Templates

/--
The slices of a variable that is set, as templates give them for offsets and lengths with no more
digits than are read.  The first characters, and what is in front of the last ones, make up the value
with the slice that starts where they end.  A slice without a length is the rest of the value behind
the place that the offset names, and is empty outside the value.  A length that is not negative takes
the first characters of that slice.  A negative one takes characters off its end, unless the offset is
inside the value and the slice would end in front of it: this is a fault, with the length in its
reason.
-/
theorem expandWith_slices
    {limits : Limits} {name : Name} {bindings : Variables} {value : Text}
    (isName : IsName name)
    (nests : 0 ≤ limits.nesting)
    (room : ((name.length + 2 * maximumDigits + 9 : Nat) : Int) ≤ limits.size)
    (present : bindings.get? name = some value)
    (mode : Mode) :
    let slice (offset : Int) (length? : Option Int) :=
      expandWith limits mode bindings (sliceTemplate name offset length?)
    (∀ count : Nat, IsReadable count →
      (do
        let front ← slice 0 (some count)
        let back ← slice count none
        return front ++ back) = .ok value) ∧
    (∀ count : Nat, IsReadable count → 1 ≤ count → count ≤ value.length →
      (do
        let front ← slice 0 (some (-count))
        let back ← slice (-count) none
        return front ++ back) = .ok value) ∧
    (∀ offset, IsReadable offset →
      ∃ rest,
        slice offset none = .ok rest ∧
        (IsInside value offset → rest = value.drop (placeOf value offset).toNat) ∧
        (¬ IsInside value offset → rest = []) ∧
        (∀ count : Nat, IsReadable count → slice offset (some count) = .ok (rest.take count)) ∧
        ∀ length < 0, IsReadable length →
          (IsInside value offset ∧ value.length + length < placeOf value offset →
            slice offset (some length) =
              .error (.invalid (sliceTemplate name offset (some length)) (.negativeLength length))) ∧
          (¬ (IsInside value offset ∧ value.length + length < placeOf value offset) →
            slice offset (some length) = .ok (rest.rdrop length.natAbs))) ∧
    ∀ length, (Fault.negativeLength length).reason? =
      some (Text.Decimal.ofInt length ++ ": substring expression < 0".toList) := by
  intro slice
  refine ⟨?_, ?_, ?_, fun _ => rfl⟩
  · intro count readable
    exact expandWith_slices_meet isName nests room present readable mode
  · intro count readable positive fits
    exact expandWith_slices_meet_at_end isName nests room present readable positive fits mode
  · intro offset readable
    rcases exists_substring_none value offset with ⟨rest, whole⟩
    refine ⟨rest, expandWith_sliceTemplate_none isName nests room present whole readable mode, ?_, ?_,
      expandWith_slice_of_none isName nests room present whole readable mode⟩
    · intro inside
      rw [substring_none_of_inside inside] at whole
      exact (Except.ok.inj whole).symm
    · intro outside
      rw [substring_of_not_inside outside] at whole
      exact (Except.ok.inj whole).symm

/--
Slices of `abc`: two that meet in front of `bc`, one at an offset in front of the value, and one that
would end in front of its offset.
-/
theorem expandWith_slices_of_abc :
    let bindings : Variables := ⟨[(['x'], ['a', 'b', 'c'])]⟩
    (do
      let front ← expandWith {} .strict bindings (sliceTemplate ['x'] 0 (some (-2)))
      let back ← expandWith {} .strict bindings (sliceTemplate ['x'] (-2) none)
      return front ++ back) = .ok ['a', 'b', 'c'] ∧
    expandWith {} .strict bindings (sliceTemplate ['x'] (-4) none) = .ok [] ∧
    sliceTemplate ['x'] 1 (some (-3)) = "$\x7bx: 1: -3\x7d".toList ∧
    expandWith {} .strict bindings (sliceTemplate ['x'] 1 (some (-3))) =
      .error (.invalid (sliceTemplate ['x'] 1 (some (-3))) (.negativeLength (-3))) := by
  intro bindings
  have present : bindings.get? ['x'] = some ['a', 'b', 'c'] := rfl
  rcases @expandWith_slices {} _ _ _ (by decide) (by decide) (by decide) present .strict with
    ⟨_, meet, slices, _⟩
  rcases slices (-4) (by decide) with ⟨rest, outside, _, isEmpty, _⟩
  rcases slices 1 (by decide) with ⟨_, _, _, _, _, negative⟩
  refine ⟨meet 2 (by decide) (by decide) (by decide), ?_, rfl, ?_⟩
  · exact outside.trans (congrArg Except.ok (isEmpty (by decide)))
  · exact (negative (-3) (by decide) (by decide)).1 (by decide)

end ParameterExpansion.Expansion
