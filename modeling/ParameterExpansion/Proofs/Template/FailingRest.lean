import ParameterExpansion.Proofs.Template.Concatenation
import ParameterExpansion.Proofs.Template.Rejection

/-!
# Templates that fail behind others

If a template cannot be parsed, then neither can a longer one that ends in it, as long as what stands
in front can be parsed and the two can meet.  The failure is the same, but for the position of an
expansion that is never closed: it counts the characters in front as well.
-/

namespace ParameterExpansion

/-- The failure of a text that stands further on by a number of characters. -/
def Failure.movedBy (offset : Nat) : Failure → Failure
  | .unterminated text position => .unterminated text (position + offset)
  | failure => failure

/-- No other failure than that of an expansion that is never closed has a position. -/
theorem Failure.movedBy_eq_self
    {failure : Failure}
    (other : ∀ text position, failure ≠ .unterminated text position)
    (offset : Nat) :
    failure.movedBy offset = failure := by
  cases failure with
  | unterminated text position => exact (other text position rfl).elim
  | _ => rfl

end ParameterExpansion

namespace ParameterExpansion.Template

/-! ## Scanning -/

/-- Scanning fails behind lexemes as it fails without them, only further on. -/
theorem scan_append_of_error
    {escapes : Bool} {front rest : Text} {lexemes : List Lexeme} {failure : Failure}
    (lexes : Lexes escapes front lexemes)
    (leaves : LeavesLast escapes lexemes rest)
    (failed : scan escapes rest = .error failure) :
    scan escapes (front ++ rest) = .error (failure.movedBy front.length) := by
  rcases scan_eq_error_iff.mp failed with ⟨middle, unclosed, rfl, meets, rfl⟩
  have position :
      ((0 + front.length + middle.length : Nat) : Int) = middle.length + front.length := by
    omega
  rw [scan, lexes.readLexemes_append leaves, meets.readLexemes_eq, position]
  rfl

/-! ## Contents -/

/-- Behind an item that is parsed, a list fails as it does without this item. -/
theorem mapM_cons_eq_error_iff
    {Error Item Result : Type}
    {step : Item → Except Error Result} {item : Item} {result : Result}
    (stepped : step item = .ok result)
    (items : List Item)
    (error : Error) :
    (item :: items).mapM step = .error error ↔ items.mapM step = .error error := by
  rw [List.mapM_cons, stepped]
  cases items.mapM step with
  | error other => rfl
  | ok results => simp [bind, Except.bind, pure, Except.pure]

/-- Contents that cannot be parsed fail in the same way behind contents that can. -/
theorem mapM_joinContents_of_error
    {limits : Limits} {depth : Int} {contents others : List Content} {word : Word}
    {failure : Failure}
    (parses : List.Forall₂ (ParsesTo limits depth) contents word)
    (failed : others.mapM (parseContent limits depth) = .error failure) :
    (joinContents contents others).mapM (parseContent limits depth) = .error failure := by
  induction parses with
  | nil => exact failed
  | @cons content part contents word first behind ih =>
      have stepped := parseContent_eq_ok_iff.mpr first
      have passed := (mapM_cons_eq_error_iff stepped (joinContents contents others) failure).mpr ih
      cases first with
      | escaped c => exact passed
      | expansion parsed => exact passed
      | literal text =>
          cases behind with
          | cons second behind => exact passed
          | nil =>
              -- Only here may two literal runs meet, and then the second is parsed as well.
              cases others with
              | nil => exact passed
              | cons other others =>
                  cases other with
                  | escaped c => exact passed
                  | expansion body => exact passed
                  | literal more =>
                      have literal (run : Text) :
                          parseContent limits depth (.literal run) = .ok (.literal run) :=
                        rfl
                      have failedBehind := (mapM_cons_eq_error_iff (literal more) _ _).mp failed
                      exact (mapM_cons_eq_error_iff (literal (text ++ more)) _ _).mpr failedBehind

/-! ## Parsing -/

theorem parseWord_append_of_error
    {limits : Limits} {depth : Int} {front rest : Text} {word : Word} {failure : Failure}
    (frontParsed : parseWord limits false depth front = .ok word)
    (restFailed : parseWord limits false depth rest = .error failure)
    (canMeet : CanMeet front rest) :
    parseWord limits false depth (front ++ rest) = .error (failure.movedBy front.length) := by
  rcases parseWord_eq_ok_iff.mp frontParsed with ⟨allowed, before, frontLexes, frontParses⟩
  have leaves := canMeet.leavesLast frontLexes
  cases scanned : scan false rest with
  | error other =>
      rw [parseWord_eq, if_neg (Int.not_lt.mpr allowed), scanned] at restFailed
      cases restFailed
      rw [parseWord_eq, if_neg (Int.not_lt.mpr allowed),
        scan_append_of_error frontLexes leaves scanned]
      rfl
  | ok segments =>
      rcases scan_eq_ok_iff.mp scanned with ⟨after, restLexes, _⟩
      have other : ∀ text position, failure ≠ .unterminated text position := by
        rintro text position rfl
        exact parseWord_ne_unterminated scanned text position restFailed
      rw [restLexes.parseWord_eq_mapM allowed] at restFailed
      rw [(frontLexes.append restLexes leaves).parseWord_eq_mapM allowed, joinLexemes_append,
        mapM_joinContents_of_error frontParses restFailed, Failure.movedBy_eq_self other]

/--
A template that can be parsed, with one behind it that cannot, fails as that one does.  Only the
position of an expansion that is never closed counts from another start.
-/
theorem parseText_append_of_error
    {limits : Limits} {front rest : Text} {word : Word} {failure : Failure}
    (frontParsed : parseText limits front = .ok word)
    (restFailed : parseText limits rest = .error failure)
    (fits : (front ++ rest).length ≤ limits.size)
    (canMeet : CanMeet front rest) :
    parseText limits (front ++ rest) = .error (failure.movedBy front.length) := by
  have restFits : ¬ limits.size < rest.length := by
    rw [List.length_append] at fits
    omega
  rw [parseText, if_neg restFits] at restFailed
  rw [parseText, if_neg (Int.not_lt.mpr fits)]
  exact parseWord_append_of_error (parseText_eq_ok_iff.mp frontParsed).2 restFailed canMeet

end ParameterExpansion.Template
