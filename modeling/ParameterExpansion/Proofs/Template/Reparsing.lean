import ParameterExpansion.Proofs.Template.Nesting
import ParameterExpansion.Proofs.Template.Placement
import ParameterExpansion.Proofs.Template.RoundTrip

/-!
# Expansions parsed on their own

The body of an expansion stands in the text that is parsed, and the words that are cut out of a body
stand in that body.  So the text that an expansion carries stands in the template, at whatever depth
the expansion is.  The brace that closes it does not depend on what surrounds it, and neither does
the way in which its words are parsed: parsing the text alone gives back the expansion.
-/

namespace ParameterExpansion.Template

/-! ## Expansions stand in their text -/

/--
Every expansion of a word, at any depth, is parsed from a balanced body that stands with its braces
in the text.
-/
theorem exists_body_of_mem_wordExpansions
    {limits : Limits} {escapes : Bool} {depth : Int} {text : Text} {word : Word}
    {name : Name} {operation : Operation (List Part)} {raw : Text}
    (parsed : parseWord limits escapes depth text = .ok word)
    (member : .expansion name operation raw ∈ wordExpansions word) :
    ∃ body deeper, Balanced body ∧ raw = enclose body ∧ enclose body <:+: text ∧
      depth ≤ deeper ∧ deeper ≤ limits.nesting ∧
      parseBody limits deeper body = .ok (.expansion name operation raw) := by
  induction word using word_induction generalizing escapes depth text with
  | step word ih =>
  rcases mem_or_exists_of_mem_wordExpansions member with
    isPart | ⟨outer, outerOperation, outerRaw, isPart, inner, isInner, isInside⟩
  · rcases exists_body_of_mem_word parsed isPart with ⟨body, balanced, own, stands, parsedBody⟩
    have allowed := (parseWord_eq_ok_iff.mp parsed).1
    exact ⟨body, depth, balanced, own, stands, Int.le_refl depth, allowed, parsedBody⟩
  · rcases exists_body_of_mem_word parsed isPart with ⟨outerBody, _, _, outerStands, parsedBody⟩
    rcases exists_text_of_mem_words parsedBody isInner with ⟨innerText, isCut, parsedInner⟩
    rcases ih outer outerOperation _ isPart inner isInner parsedInner isInside with
      ⟨body, deeper, balanced, own, stands, below, allowed, parsedOwn⟩
    have inOuter : enclose body <:+: enclose outerBody :=
      (stands.trans isCut.isInfix).trans (isInfix_enclose outerBody)
    exact ⟨body, deeper, balanced, own, inOuter.trans outerStands, by omega, allowed, parsedOwn⟩

/-! ## Parsing an expansion on its own -/

/--
The text that an expansion of a parsed template carries, at whatever depth the expansion is, stands
in the template, and parsed with the same limits it gives the word that consists of this expansion.
-/
theorem parseText_raw_of_mem_wordExpansions
    {limits : Limits} {text : Text} {word : Word}
    {name : Name} {operation : Operation (List Part)} {raw : Text}
    (parsed : parseText limits text = .ok word)
    (member : .expansion name operation raw ∈ wordExpansions word) :
    raw <:+: text ∧ parseText limits raw = .ok [.expansion name operation raw] := by
  rcases parseText_eq_ok_iff.mp parsed with ⟨fits, parsedWord⟩
  rcases exists_body_of_mem_wordExpansions parsedWord member with
    ⟨body, deeper, balanced, rfl, stands, below, allowed, parsedBody⟩
  refine ⟨stands, parseText_eq_ok_iff.mpr ⟨?_, ?_⟩⟩
  · have shorter := stands.length_le
    omega
  · have alone := parseWord_enclose balanced allowed parsedBody
    have room := nesting_le_of_parseWord alone
    exact parseWord_of_nesting_le alone (by omega)

/-- A replacement with a quoted brace in its pattern is parsed outside the default it stands in. -/
theorem parseText_raw_in_default :
    let raw := enclose ['y', '/', '\\', '}', '/', 'c']
    raw <:+: 'a' :: enclose (['x', ':', '-', 'b'] ++ raw) ∧
      parseText {} raw =
        .ok [.expansion ['y'] (.replace .first [.escaped ['}']] [.literal ['c']]) raw] := by
  intro raw
  let word : Word :=
    [.literal ['a'],
      .expansion ['x']
        (.fallback true .minus
          [.literal ['b'],
            .expansion ['y'] (.replace .first [.escaped ['}']] [.literal ['c']]) raw])
        (enclose (['x', ':', '-', 'b'] ++ raw))]
  have normal : NormalWord .top word := by
    have names : IsName ['x'] ∧ IsName ['y'] := by decide
    simp [word, NormalWord, NormalPart, NormalOperation, Operation.IsDistinct, Place.Allows,
      Place.quotes, Part.isLiteral, StartsWith, Part.startsWith, names]
  have parsed : parseText {} ('a' :: enclose (['x', ':', '-', 'b'] ++ raw)) = .ok word :=
    parseText_eq_ok_iff.mpr ⟨by decide, parseWord_printWord normal (by decide)⟩
  exact parseText_raw_of_mem_wordExpansions parsed
    (by simp [word, wordExpansions, partExpansions, operationExpansions])

end ParameterExpansion.Template
