import Mathlib.Data.List.Infix
import ParameterExpansion.Text.Occurrence

/-!
# Leftmost occurrences

A search for a pattern returns the text on both sides of its first occurrence, and nothing exactly
if the pattern does not occur.  Searching again behind each occurrence cuts a text into the pieces
between the leftmost occurrences that do not overlap.  Joined with the pattern they make up the text;
joined with something that shares no character with the pattern they hold no occurrence of it.
-/

namespace ParameterExpansion.Text

/-- The pattern stands between the two texts, and it occurs in the text at no earlier place. -/
def IsFirstOccurrence (pattern text before after : Text) : Prop :=
  text = before ++ pattern ++ after ∧
    ∀ earlier later, text = earlier ++ pattern ++ later → before.length ≤ earlier.length

/-- What a search for the first occurrence of a pattern returns. -/
def IsFirstCut (pattern text : Text) : Option (Text × Text) → Prop
  | some (before, after) => IsFirstOccurrence pattern text before after
  | none => ¬ pattern <:+: text

theorem isFirstOccurrence_of_prefix (pattern rest : Text) :
    IsFirstOccurrence pattern (pattern ++ rest) [] rest := by
  exact ⟨rfl, fun _ _ _ => Nat.zero_le _⟩

/-- A character in front at which the pattern does not start belongs to the text before. -/
theorem IsFirstOccurrence.cons
    {pattern text before after : Text} {c : Char}
    (first : IsFirstOccurrence pattern text before after)
    (absent : ¬ pattern <+: c :: text) :
    IsFirstOccurrence pattern (c :: text) (c :: before) after := by
  rcases first with ⟨rfl, earliest⟩
  refine ⟨rfl, ?_⟩
  intro earlier later same
  cases earlier with
  | nil => exact (absent ⟨later, same.symm⟩).elim
  | cons other earlier =>
      rcases List.cons.inj same with ⟨_, same⟩
      exact Nat.succ_le_succ (earliest earlier later same)

/-- A text has at most one first occurrence of a pattern. -/
theorem IsFirstOccurrence.unique
    {pattern text before before' after after' : Text}
    (left : IsFirstOccurrence pattern text before after)
    (right : IsFirstOccurrence pattern text before' after') :
    before = before' ∧ after = after' := by
  rcases left with ⟨rfl, earliest⟩
  rcases right with ⟨same, earliest'⟩
  have lengths : before.length = before'.length :=
    Nat.le_antisymm (earliest before' after' same) (earliest' before after rfl)
  rw [List.append_assoc, List.append_assoc] at same
  rcases List.append_inj same lengths with ⟨sameBefore, sameRest⟩
  exact ⟨sameBefore, List.append_cancel_left sameRest⟩

theorem IsFirstOccurrence.isInfix
    {pattern text before after : Text}
    (first : IsFirstOccurrence pattern text before after) :
    pattern <:+: text := by
  exact ⟨before, after, first.1.symm⟩

theorem cutAround?_eq_map
    (pattern passed text : Text) :
    cutAround? pattern passed text =
      (cutAround? pattern [] text).map fun parts => (passed.reverse ++ parts.1, parts.2) := by
  induction text generalizing passed with
  | nil =>
      rw [cutAround?, cutAround?]
      split <;> simp
  | cons c rest ih =>
      rw [cutAround?, cutAround?]
      split
      · simp
      · rw [ih (c :: passed), ih [c], Option.map_map]
        congr 1
        funext parts
        simp

/-- Comparing the pattern with the text at every place finds the first occurrence. -/
theorem isFirstCut_cutAround? (pattern text : Text) :
    IsFirstCut pattern text (cutAround? pattern [] text) := by
  induction text with
  | nil =>
      cases pattern with
      | nil => exact isFirstOccurrence_of_prefix [] []
      | cons c pattern => simp [cutAround?, IsFirstCut]
  | cons c rest ih =>
      rw [cutAround?]
      split
      · rename_i fits
        obtain ⟨tail, whole⟩ := List.isPrefixOf_iff_prefix.mp fits
        rw [← whole, List.drop_left]
        exact isFirstOccurrence_of_prefix pattern tail
      · rename_i absent
        rw [List.isPrefixOf_iff_prefix] at absent
        rw [cutAround?_eq_map]
        cases found : cutAround? pattern [] rest with
        | none =>
            rw [found] at ih
            intro occurs
            rcases List.infix_cons_iff.mp occurs with starts | inside
            · exact absent starts
            · exact ih inside
        | some parts =>
            rw [found] at ih
            exact IsFirstOccurrence.cons ih absent

/-- A search for a pattern that is not empty finds its first occurrence. -/
theorem isFirstCut_cut?
    {pattern : Text}
    (nonempty : pattern ≠ [])
    (text : Text) :
    IsFirstCut pattern text (cut? pattern text) := by
  rw [cut?_eq nonempty]
  exact isFirstCut_cutAround? pattern text

/-- The pieces of a text between the leftmost occurrences of a pattern that do not overlap. -/
inductive IsCutInto (pattern : Text) : Text → List Text → Prop where
  | last {text : Text} (absent : ¬ pattern <:+: text) : IsCutInto pattern text [text]
  | next {text before after : Text} {pieces : List Text}
      (first : IsFirstOccurrence pattern text before after)
      (others : IsCutInto pattern after pieces) :
      IsCutInto pattern text (before :: pieces)

/-- A text is cut in one way only. -/
theorem IsCutInto.unique
    {pattern text : Text} {pieces pieces' : List Text}
    (left : IsCutInto pattern text pieces)
    (right : IsCutInto pattern text pieces') :
    pieces = pieces' := by
  induction left generalizing pieces' with
  | last absent =>
      cases right with
      | last absent => rfl
      | next first others => exact (absent first.isInfix).elim
  | next first others ih =>
      cases right with
      | last absent => exact (absent first.isInfix).elim
      | next first' others' =>
          rcases first.unique first' with ⟨rfl, rfl⟩
          rw [ih others']

theorem exists_isCutInto_of_separateFrom
    {pattern : Text}
    (nonempty : pattern ≠ [])
    (done : List Text)
    (text : Text) :
    ∃ pieces, IsCutInto pattern text pieces ∧
      separateFrom pattern done text = done.reverse ++ pieces := by
  fun_induction separateFrom pattern done text with
  | case1 done text empty => exact (nonempty empty).elim
  | case2 done text _ cut =>
      have isCut := isFirstCut_cut? nonempty text
      rw [cut] at isCut
      exact ⟨[text], IsCutInto.last isCut, by simp⟩
  | case3 done text _ before after cut shorter ih =>
      have isCut := isFirstCut_cut? nonempty text
      rw [cut] at isCut
      rcases ih with ⟨pieces, others, same⟩
      exact ⟨before :: pieces, IsCutInto.next isCut others, by simp [same]⟩

/-- Separating a text at a pattern cuts it at the leftmost occurrences. -/
theorem isCutInto_separate
    {pattern : Text}
    (nonempty : pattern ≠ [])
    (text : Text) :
    IsCutInto pattern text (text.separate pattern) := by
  rcases exists_isCutInto_of_separateFrom nonempty [] text with ⟨pieces, isCut, same⟩
  rw [separate, same]
  exact isCut

theorem separate_eq_of_isCutInto
    {pattern text : Text} {pieces : List Text}
    (nonempty : pattern ≠ [])
    (isCut : IsCutInto pattern text pieces) :
    text.separate pattern = pieces :=
  (isCutInto_separate nonempty text).unique isCut

/-! ## Replacing -/

theorem IsCutInto.exists_cons
    {pattern text : Text} {pieces : List Text}
    (isCut : IsCutInto pattern text pieces) :
    ∃ first others, pieces = first :: others := by
  cases isCut with
  | last absent => exact ⟨_, _, rfl⟩
  | next first others => exact ⟨_, _, rfl⟩

/-- A character in front at which the pattern does not start belongs to the first piece. -/
theorem IsCutInto.cons
    {pattern text piece : Text} {pieces : List Text} {c : Char}
    (isCut : IsCutInto pattern text (piece :: pieces))
    (absent : ¬ pattern <+: c :: text) :
    IsCutInto pattern (c :: text) ((c :: piece) :: pieces) := by
  cases isCut with
  | last absentInside =>
      apply IsCutInto.last
      rw [List.infix_cons_iff]
      exact not_or.mpr ⟨absent, absentInside⟩
  | next first others => exact IsCutInto.next (first.cons absent) others

theorem replaceAll_nil
    {pattern : Text}
    (nonempty : pattern ≠ [])
    (replacement : Text) :
    replaceAll [] pattern replacement = [] := by
  have absent : ¬ pattern <:+: [] := fun occurs => nonempty (List.infix_nil.mp occurs)
  rw [replaceAll, separate_eq_of_isCutInto nonempty (IsCutInto.last absent)]
  rfl

/-- An occurrence in front is replaced, and replacing goes on behind it. -/
theorem replaceAll_append
    {pattern : Text}
    (nonempty : pattern ≠ [])
    (rest replacement : Text) :
    (pattern ++ rest).replaceAll pattern replacement =
      replacement ++ rest.replaceAll pattern replacement := by
  have first := isFirstOccurrence_of_prefix pattern rest
  have isCut := isCutInto_separate nonempty rest
  have whole := IsCutInto.next first isCut
  rcases isCut.exists_cons with ⟨piece, pieces, separated⟩
  rw [replaceAll, replaceAll, separate_eq_of_isCutInto nonempty whole, separated]
  rfl

/-- A character at which no occurrence starts stays where it is. -/
theorem replaceAll_cons
    {pattern rest : Text} {c : Char}
    (nonempty : pattern ≠ [])
    (absent : ¬ pattern <+: c :: rest)
    (replacement : Text) :
    replaceAll (c :: rest) pattern replacement = c :: replaceAll rest pattern replacement := by
  have isCut := isCutInto_separate nonempty rest
  rcases isCut.exists_cons with ⟨piece, pieces, separated⟩
  rw [separated] at isCut
  rw [replaceAll, replaceAll, separate_eq_of_isCutInto nonempty (isCut.cons absent), separated]
  cases pieces with
  | nil => rfl
  | cons next pieces => rfl

/-! ## Joining -/

/-- Joining the pieces with the pattern gives the text back. -/
theorem IsCutInto.intercalate_eq
    {pattern text : Text} {pieces : List Text}
    (isCut : IsCutInto pattern text pieces) :
    pattern.intercalate pieces = text := by
  induction isCut with
  | last absent => exact List.intercalate_singleton
  | next first others ih =>
      rcases others.exists_cons with ⟨piece, pieces, rfl⟩
      rw [List.intercalate_cons_cons, ih, first.1]

/-- The pattern does not occur in front of its first occurrence. -/
theorem IsFirstOccurrence.not_isInfix_before
    {pattern text before after : Text}
    (nonempty : pattern ≠ [])
    (first : IsFirstOccurrence pattern text before after) :
    ¬ pattern <:+: before := by
  rintro ⟨earlier, between, rfl⟩
  have positive : 0 < pattern.length := List.length_pos_iff.mpr nonempty
  have bound := first.2 earlier (between ++ pattern ++ after) (by simp [first.1])
  simp only [List.length_append] at bound
  omega

/-- The pattern occurs in none of the pieces. -/
theorem IsCutInto.not_isInfix
    {pattern text piece : Text} {pieces : List Text}
    (nonempty : pattern ≠ [])
    (isCut : IsCutInto pattern text pieces)
    (member : piece ∈ pieces) :
    ¬ pattern <:+: piece := by
  induction isCut with
  | last absent =>
      rcases List.mem_singleton.mp member with rfl
      exact absent
  | next first others ih =>
      rcases List.mem_cons.mp member with rfl | member
      · exact first.not_isInfix_before nonempty
      · exact ih member

/-- A pattern without a character goes no further than to that character. -/
theorem prefix_of_prefix_append_cons
    {pattern front back : Text} {c : Char}
    (absent : c ∉ pattern)
    (fits : pattern <+: front ++ c :: back) :
    pattern <+: front := by
  rcases List.prefix_or_prefix_of_prefix fits (List.prefix_append front _) with inside | ⟨rest, rfl⟩
  · exact inside
  · have rest_fits := (List.prefix_append_right_inj front).mp fits
    cases rest with
    | nil => rw [List.append_nil]
    | cons d rest =>
        obtain ⟨rfl, _⟩ := List.cons_prefix_cons.mp rest_fits
        exact (absent (by simp)).elim

/-- A pattern without a character occurs on one side of it. -/
theorem infix_or_infix_of_infix_append_cons
    {pattern front back : Text} {c : Char}
    (absent : c ∉ pattern)
    (occurs : pattern <:+: front ++ c :: back) :
    pattern <:+: front ∨ pattern <:+: back := by
  induction front with
  | nil =>
      rcases List.infix_cons_iff.mp occurs with starts | inside
      · have inNothing : pattern <+: [] := prefix_of_prefix_append_cons absent starts
        exact Or.inl inNothing.isInfix
      · exact Or.inr inside
  | cons d front ih =>
      rcases List.infix_cons_iff.mp occurs with starts | inside
      · have inFront : pattern <+: d :: front := prefix_of_prefix_append_cons absent starts
        exact Or.inl inFront.isInfix
      · exact (ih inside).imp_left fun inFront => List.infix_cons inFront

/-- A pattern that shares no character with a separator occurs on one side of it. -/
theorem infix_or_infix_of_infix_append_append
    {pattern separator front back : Text}
    (nonempty : separator ≠ [])
    (disjoint : separator.Disjoint pattern)
    (occurs : pattern <:+: front ++ separator ++ back) :
    pattern <:+: front ∨ pattern <:+: back := by
  induction separator generalizing front with
  | nil => exact (nonempty rfl).elim
  | cons c separator ih =>
      rcases List.disjoint_cons_left.mp disjoint with ⟨absent, disjoint⟩
      rw [List.append_assoc, List.cons_append] at occurs
      rcases infix_or_infix_of_infix_append_cons absent occurs with inFront | behind
      · exact Or.inl inFront
      · by_cases last : separator = []
        · subst last
          exact Or.inr behind
        · rcases @ih [] last disjoint behind with inNothing | inBack
          · exact Or.inl (inNothing.trans List.nil_infix)
          · exact Or.inr inBack

/-- A pattern that shares no character with the separator occurs in a piece if it does at all. -/
theorem exists_infix_of_infix_intercalate
    {pattern separator : Text} {pieces : List Text}
    (nonempty : separator ≠ [])
    (disjoint : separator.Disjoint pattern)
    (hasPieces : pieces ≠ [])
    (occurs : pattern <:+: separator.intercalate pieces) :
    ∃ piece ∈ pieces, pattern <:+: piece := by
  induction pieces with
  | nil => exact (hasPieces rfl).elim
  | cons piece pieces ih =>
      cases pieces with
      | nil =>
          rw [List.intercalate_singleton] at occurs
          exact ⟨piece, List.mem_singleton_self piece, occurs⟩
      | cons next pieces =>
          rw [List.intercalate_cons_cons] at occurs
          rcases infix_or_infix_of_infix_append_append nonempty disjoint occurs with here | behind
          · exact ⟨piece, List.mem_cons_self, here⟩
          · rcases ih (List.cons_ne_nil next pieces) behind with ⟨other, member, inside⟩
            exact ⟨other, List.mem_cons_of_mem piece member, inside⟩

end ParameterExpansion.Text
