import ParameterExpansion.Proofs.Template.WrittenBody

/-!
# What may stand behind the colon of a substring

The text behind the colon is cut at its next colon into an offset and a length, or is an offset
alone.  The expansion is a substring exactly if each of these fields stands for a number, and it
fails for the first field that does not.  Decimal text behind a blank is always such text.
-/

namespace ParameterExpansion.Template

section Bodies

variable {name : Name} {text offset : Text} {length? : Option Text} {limits : Limits} {depth : Int}
  (isName : IsName name)
  (nonempty : text ≠ [])
  (unsigned : ∀ c ∈ text.head?, c ∉ ['=', '-', '+', '?'])

include isName nonempty unsigned

theorem readBody_colon :
    readBody (name ++ ':' :: text) =
      (readSubstring (enclose (name ++ ':' :: text)) text).map fun operation =>
        (name, operation) := by
  have ends : ∀ c ∈ (':' :: text).head?, continuesName c = false := by
    rintro c ⟨⟩
    decide
  rw [readBody_append isName ends, readOperation_colon nonempty unsigned]

/-- A substring that is read is parsed; it has no words. -/
theorem parseBody_colon_of_ok
    {start : Int} {count? : Option Int}
    (read : readSubstring (enclose (name ++ ':' :: text)) text = .ok (.substring start count?)) :
    parseBody limits depth (name ++ ':' :: text) =
      .ok (.expansion name (.substring start count?) (enclose (name ++ ':' :: text))) := by
  rw [parseBody_eq, readBody_colon isName nonempty unsigned, read]
  rfl

theorem parseBody_colon_of_error
    {failure : Failure}
    (failed : readSubstring (enclose (name ++ ':' :: text)) text = .error failure) :
    parseBody limits depth (name ++ ':' :: text) = .error failure := by
  rw [parseBody_eq, readBody_colon isName nonempty unsigned, failed]
  rfl

theorem parseBody_colon_eq_ok_iff
    {part : Part}
    (cuts : Text.CutsAt ':' text offset length?) :
    parseBody limits depth (name ++ ':' :: text) = .ok part ↔
      ∃ start count?, StandsFor offset start ∧ Option.Rel StandsFor length? count? ∧
        part = .expansion name (.substring start count?) (enclose (name ++ ':' :: text)) := by
  constructor
  · intro parsed
    cases read : readSubstring (enclose (name ++ ':' :: text)) text with
    | error failure =>
        rw [parseBody_colon_of_error isName nonempty unsigned read] at parsed
        cases parsed
    | ok operation =>
        rcases (readSubstring_eq_ok_iff cuts).mp read with ⟨start, count?, stands, related, rfl⟩
        rw [parseBody_colon_of_ok isName nonempty unsigned read] at parsed
        cases parsed
        exact ⟨start, count?, stands, related, rfl⟩
  · rintro ⟨start, count?, stands, related, rfl⟩
    apply parseBody_colon_of_ok isName nonempty unsigned
    exact (readSubstring_eq_ok_iff cuts).mpr ⟨start, count?, stands, related, rfl⟩

theorem parseBody_colon_eq_error_iff
    {failure : Failure}
    (cuts : Text.CutsAt ':' text offset length?) :
    parseBody limits depth (name ++ ':' :: text) = .error failure ↔
      FailsFirst (enclose (name ++ ':' :: text)) offset length? failure := by
  rw [← readSubstring_eq_error_iff cuts]
  constructor
  · intro failed
    cases read : readSubstring (enclose (name ++ ':' :: text)) text with
    | error other =>
        rw [parseBody_colon_of_error isName nonempty unsigned read] at failed
        cases failed
        rfl
    | ok operation =>
        rcases (readSubstring_eq_ok_iff cuts).mp read with ⟨start, count?, _, _, rfl⟩
        rw [parseBody_colon_of_ok isName nonempty unsigned read] at failed
        cases failed
  · exact parseBody_colon_of_error isName nonempty unsigned

end Bodies

/-- Decimal text of an offset and a length, behind a blank, is read back. -/
theorem parseBody_ofInt
    {name : Name} {limits : Limits} {depth start : Int} {count? : Option Int}
    (isName : IsName name)
    (readable : IsReadable start)
    (readableLength : ∀ count ∈ count?, IsReadable count) :
    let body := name ++ ':' :: (' ' :: Text.Decimal.ofInt start ++ lengthText count?)
    parseBody limits depth body =
      .ok (.expansion name (.substring start count?) (enclose body)) := by
  have unsigned : ∀ c ∈ (' ' :: Text.Decimal.ofInt start ++ lengthText count?).head?,
      c ∉ ['=', '-', '+', '?'] := by
    rintro c ⟨⟩
    decide
  apply parseBody_colon_of_ok isName (List.cons_ne_nil _ _) unsigned
  exact readSubstring_ofInt readable readableLength _

/--
Behind a name and a colon, text that is not empty and does not begin with a sign of presence is cut
into an offset and, behind its first colon, a length.  The expansion is a substring exactly if each
field stands for a number, and has a length exactly if the text has a colon.  Otherwise it fails for
the first bad field; unless that is a number with too many digits, the expansion is invalid, and the
reason names the field without the white space around it.  The decimal text of an offset and a
length behind a blank is read back.
-/
theorem parseBody_substring_iff
    {name : Name} {text : Text}
    (isName : IsName name)
    (nonempty : text ≠ [])
    (unsigned : ∀ c ∈ text.head?, c ∉ ['=', '-', '+', '?'])
    (limits : Limits)
    (depth : Int) :
    let body := name ++ ':' :: text
    (∃ offset length?,
      Text.CutsAt ':' text offset length? ∧
      (∀ part, parseBody limits depth body = .ok part ↔
        ∃ start count?, StandsFor offset start ∧ Option.Rel StandsFor length? count? ∧
          part = .expansion name (.substring start count?) (enclose body)) ∧
      ∀ failure, parseBody limits depth body = .error failure ↔
        FailsFirst (enclose body) offset length? failure) ∧
    (∀ field, (Fault.invalidInteger field).reason? = some (field ++ ": invalid integer".toList)) ∧
    ∀ start count?, IsReadable start → (∀ count ∈ count?, IsReadable count) →
      let decimal := name ++ ':' :: (' ' :: Text.Decimal.ofInt start ++ lengthText count?)
      parseBody limits depth decimal =
        .ok (.expansion name (.substring start count?) (enclose decimal)) := by
  refine ⟨?_, fun field => rfl, ?_⟩
  · rcases cut : text.cutAtFirst ':' with ⟨offset, length?⟩
    have cuts := Text.cutAtFirst_eq_iff.mp cut
    refine ⟨offset, length?, cuts, ?_, ?_⟩
    · exact fun part => parseBody_colon_eq_ok_iff isName nonempty unsigned cuts
    · exact fun failure => parseBody_colon_eq_error_iff isName nonempty unsigned cuts
  · intro start count? readable readableLength
    exact parseBody_ofInt isName readable readableLength

/--
Digits of another script, padding, a plus sign and a line feed are accepted in an offset, and an empty
length is zero.  A second colon belongs to the length.
-/
theorem parseBody_substring_iff_scripts :
    let offset := ['\t', '+', '٠', '٣', ' ', '\n']
    let body := 'x' :: ':' :: (offset ++ [':'])
    let bad := 'x' :: ':' :: (offset ++ [':', ' ', 'y', ':', ' '])
    parseBody {} 0 body = .ok (.expansion ['x'] (.substring 3 (some 0)) (enclose body)) ∧
      parseBody {} 0 bad =
        .error (.invalid (enclose bad) (.invalidInteger ['y', ':'])) := by
  intro offset body bad
  have isName : IsName ['x'] := by decide
  let three : Numeral := {
    before := ['\t']
    sign := .plus
    digits := ['٠', '٣']
    after := [' ']
    endsLine := true
    padsBefore := List.forall_mem_singleton.mpr (by decide)
    areDigits := List.forall_mem_cons.mpr ⟨by decide, List.forall_mem_singleton.mpr (by decide)⟩
    nonempty := List.cons_ne_nil _ _
    padsAfter := List.forall_mem_singleton.mpr (by decide) }
  have stands : StandsFor offset 3 := StandsFor.numeral three (by decide)
  have nothing : StandsFor [] 0 := StandsFor.blank (by simp)
  have fails : FailsAs (enclose bad) [' ', 'y', ':', ' ']
      (.invalid (enclose bad) (.invalidInteger ['y', ':'])) := by
    have notBlank : ¬ ∀ c ∈ [' ', 'y', ':', ' '], Character.isBlank c = true :=
      fun blank => absurd (blank 'y' (by decide)) (by decide)
    refine FailsAs.invalid notBlank (numeral?_eq_none_iff.mp (by decide)) ?_
    exact Text.trim_eq_iff.mp (by decide)
  constructor
  · have unsigned : ∀ c ∈ (offset ++ [':']).head?, c ∉ ['=', '-', '+', '?'] := by
      rintro c ⟨⟩
      decide
    rcases (parseBody_substring_iff isName (by decide) unsigned {} 0).1 with
      ⟨front, length?, cuts, parsed, _⟩
    have cut := Text.cutAtFirst_eq_iff.mpr cuts
    obtain ⟨rfl, rfl⟩ : offset = front ∧ some [] = length? := Prod.ext_iff.mp cut
    exact (parsed _).mpr ⟨3, some 0, stands, .some nothing, rfl⟩
  · have unsigned : ∀ c ∈ (offset ++ [':', ' ', 'y', ':', ' ']).head?,
        c ∉ ['=', '-', '+', '?'] := by
      rintro c ⟨⟩
      decide
    rcases (parseBody_substring_iff isName (by decide) unsigned {} 0).1 with
      ⟨front, length?, cuts, _, failed⟩
    have cut := Text.cutAtFirst_eq_iff.mpr cuts
    obtain ⟨rfl, rfl⟩ : offset = front ∧ some [' ', 'y', ':', ' '] = length? := Prod.ext_iff.mp cut
    exact (failed _).mpr (.length stands fails)

end ParameterExpansion.Template
