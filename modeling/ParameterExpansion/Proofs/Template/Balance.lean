import Mathlib.Data.List.Infix
import ParameterExpansion.Template.Brace

/-!
# Balanced text

The text of an expansion's body is balanced: it is made of quoted characters, dollar pairs, inner
expansions with balanced bodies, and characters that have no such role where they stand.  The search
for the closing brace counts the inner expansions that are open.  The main statement says that it
finds a brace exactly when the text in front of that brace is balanced, so the count and the grammar
agree, whatever comes after the brace.
-/

namespace ParameterExpansion.Template

/-- A dollar that begins a dollar pair or an expansion with the text behind it. -/
def IsMark (c : Char) (rest : Text) : Prop :=
  c = '$' ∧ ∃ next tail, rest = next :: tail ∧ (next = '$' ∨ next = '{')

theorem IsMark.of_prefix
    {c : Char} {front text : Text}
    (mark : IsMark c front)
    (isPrefix : front <+: text) :
    IsMark c text := by
  rcases mark with ⟨isDollar, next, tail, rfl, isNext⟩
  rcases isPrefix with ⟨rest, rfl⟩
  exact ⟨isDollar, next, tail ++ rest, rfl, isNext⟩

/-- A closing brace behind a text begins nothing. -/
theorem IsMark.of_append_brace
    {c : Char} {front after : Text}
    (mark : IsMark c (front ++ '}' :: after)) :
    IsMark c front := by
  rcases mark with ⟨isDollar, next, tail, joined, isNext⟩
  cases front with
  | nil =>
      rcases List.cons.inj joined with ⟨rfl, _⟩
      rcases isNext with isNext | isNext
      · simp at isNext
      · simp at isNext
  | cons first front =>
      rcases List.cons.inj joined with ⟨rfl, _⟩
      exact ⟨isDollar, first, front, rfl, isNext⟩

/-- Text that can be the body of an expansion. -/
inductive Balanced : Text → Prop where
  | nil : Balanced []
  | escaped (c : Char) {rest : Text} (balanced : Balanced rest) :
      Balanced ('\\' :: c :: rest)
  | pair {rest : Text} (balanced : Balanced rest) :
      Balanced ('$' :: '$' :: rest)
  | expansion {inner rest : Text} (closed : Balanced inner) (balanced : Balanced rest) :
      Balanced ('$' :: '{' :: inner ++ '}' :: rest)
  | plain {c : Char} {rest : Text}
      (quotesNot : c ≠ '\\') (closesNot : c ≠ '}') (marksNot : ¬ IsMark c rest)
      (balanced : Balanced rest) :
      Balanced (c :: rest)

/-! ## Characters without a role -/

/-- Characters that have no role in balanced text wherever they stand. -/
def IsOrdinary (c : Char) : Prop :=
  c ≠ '\\' ∧ c ≠ '$' ∧ c ≠ '}'

instance : DecidablePred IsOrdinary :=
  fun _ => inferInstanceAs (Decidable (_ ∧ _ ∧ _))

theorem IsOrdinary.not_isMark
    {c : Char}
    (ordinary : IsOrdinary c)
    (rest : Text) :
    ¬ IsMark c rest := by
  intro mark
  exact ordinary.2.1 mark.1

/-- A class of characters without a quote, a dollar and a closing brace. -/
theorem IsOrdinary.of_class
    {holds : Char → Bool} {c : Char}
    (quote : holds '\\' = false)
    (dollar : holds '$' = false)
    (brace : holds '}' = false)
    (member : holds c = true) :
    IsOrdinary c := by
  refine ⟨?_, ?_, ?_⟩
  · rintro rfl
    exact Bool.false_ne_true (quote.symm.trans member)
  · rintro rfl
    exact Bool.false_ne_true (dollar.symm.trans member)
  · rintro rfl
    exact Bool.false_ne_true (brace.symm.trans member)

theorem Balanced.append_ordinary
    {front rest : Text}
    (ordinary : ∀ c ∈ front, IsOrdinary c)
    (balanced : Balanced rest) :
    Balanced (front ++ rest) := by
  induction front with
  | nil => exact balanced
  | cons c front ih =>
      have first := ordinary c List.mem_cons_self
      apply Balanced.plain first.1 first.2.2 (first.not_isMark _)
      exact ih fun other member => ordinary other (List.mem_cons_of_mem c member)

/-- Ordinary characters in front of balanced text may be taken off. -/
theorem Balanced.of_append_ordinary
    {front rest : Text}
    (ordinary : ∀ c ∈ front, IsOrdinary c)
    (balanced : Balanced (front ++ rest)) :
    Balanced rest := by
  induction front with
  | nil => exact balanced
  | cons c front ih =>
      have first := ordinary c List.mem_cons_self
      apply ih fun other member => ordinary other (List.mem_cons_of_mem c member)
      generalize joined : c :: front ++ rest = text at balanced
      cases balanced with
      | nil => simp at joined
      | escaped other balanced => exact (first.1 (List.cons.inj joined).1).elim
      | pair balanced => exact (first.2.1 (List.cons.inj joined).1).elim
      | expansion closed balanced => exact (first.2.1 (List.cons.inj joined).1).elim
      | plain quotesNot closesNot marksNot balanced =>
          rw [← (List.cons.inj joined).2] at balanced
          exact balanced

theorem Balanced.of_cons
    {c : Char} {rest : Text}
    (ordinary : IsOrdinary c)
    (balanced : Balanced (c :: rest)) :
    Balanced rest := by
  have single : ∀ other ∈ [c], IsOrdinary other := by
    simpa using ordinary
  exact Balanced.of_append_ordinary single balanced

/-! ## Counting open expansions -/

/-- Text up to the brace that closes an expansion inside which a number of others are open. -/
def ClosesOpen : Nat → Text → Prop
  | 0, text => Balanced text
  | depth + 1, text =>
      ∃ inner rest, text = inner ++ '}' :: rest ∧ Balanced inner ∧ ClosesOpen depth rest

/-- What may stand in front of balanced text may stand in front of the innermost body. -/
theorem ClosesOpen.prepend
    {depth : Nat} {front text : Text}
    (extend : ∀ body, body <+: text → Balanced body → Balanced (front ++ body))
    (closes : ClosesOpen depth text) :
    ClosesOpen depth (front ++ text) := by
  cases depth with
  | zero => exact extend text (List.prefix_refl text) closes
  | succ outer =>
      rcases closes with ⟨inner, rest, rfl, balanced, closes⟩
      have isPrefix : inner <+: inner ++ '}' :: rest := List.prefix_append _ _
      refine ⟨front ++ inner, rest, (List.append_assoc _ _ _).symm, ?_, closes⟩
      exact extend inner isPrefix balanced

/-- An expansion that begins in front of such text is one more that is open. -/
theorem ClosesOpen.open
    {depth : Nat} {text : Text}
    (closes : ClosesOpen (depth + 1) text) :
    ClosesOpen depth ('$' :: '{' :: text) := by
  rcases closes with ⟨inner, rest, rfl, balanced, closes⟩
  have whole : ClosesOpen depth (('$' :: '{' :: inner ++ ['}']) ++ rest) := by
    apply closes.prepend
    intro body _ balancedBody
    simpa using Balanced.expansion balanced balancedBody
  simpa using whole

/-- What the search passes closes the expansions that were open. -/
theorem closesOpen_of_cutAtBrace?
    {depth : Nat} {passed text body after : Text}
    (cut : cutAtBrace? depth passed text = some (body, after)) :
    ∃ front, body = passed.reverse ++ front ∧ ClosesOpen depth front := by
  fun_induction cutAtBrace? depth passed text with
  | case1 => simp at cut
  | case2 depth passed c rest ih =>
      rcases ih cut with ⟨front, rfl, closes⟩
      refine ⟨['\\', c] ++ front, by simp, closes.prepend ?_⟩
      exact fun _ _ balanced => Balanced.escaped c balanced
  | case3 depth passed rest ih =>
      rcases ih cut with ⟨front, rfl, closes⟩
      refine ⟨['$', '$'] ++ front, by simp, closes.prepend ?_⟩
      exact fun _ _ balanced => Balanced.pair balanced
  | case4 depth passed rest ih =>
      rcases ih cut with ⟨front, rfl, closes⟩
      exact ⟨'$' :: '{' :: front, by simp, closes.open⟩
  | case5 passed rest =>
      obtain ⟨rfl, _⟩ : passed.reverse = body ∧ rest = after := by
        simpa using cut
      exact ⟨[], by simp, Balanced.nil⟩
  | case6 passed rest outer ih =>
      rcases ih cut with ⟨front, rfl, closes⟩
      exact ⟨'}' :: front, by simp, [], front, rfl, Balanced.nil, closes⟩
  | case7 depth passed c rest notEscaped notPair notOpening notClosing ih =>
      rcases ih cut with ⟨front, rfl, closes⟩
      have isPrefix : front <+: rest := by
        have whole := append_of_cutAtBrace? cut
        rw [List.append_assoc] at whole
        exact ⟨'}' :: after, (List.append_cancel_left whole).symm⟩
      refine ⟨[c] ++ front, by simp, closes.prepend ?_⟩
      intro inner innerPrefix balanced
      -- A character at the end of an inner body is followed by the brace that closes it.
      apply Balanced.plain ?_ notClosing ?_ balanced
      · rintro rfl
        cases rest with
        | nil => simp [cutAtBrace?] at cut
        | cons next tail => exact notEscaped next tail rfl rfl
      · intro mark
        rcases mark.of_prefix (innerPrefix.trans isPrefix) with ⟨rfl, next, tail, rfl, same | same⟩
        · exact notPair tail rfl (congrArg (· :: tail) same)
        · exact notOpening tail rfl (congrArg (· :: tail) same)

/-! ## The closing brace -/

/-- The search goes on with the outer expansions once the inner ones are closed. -/
theorem cutAtBrace?_add
    (inner outer : Nat)
    (passed text : Text) :
    cutAtBrace? (inner + 1 + outer) passed text =
      (cutAtBrace? inner passed text).bind fun (body, after) =>
        cutAtBrace? outer ('}' :: body.reverse) after := by
  fun_induction cutAtBrace? inner passed text with
  | case1 => simp [cutAtBrace?]
  | case2 depth passed c rest ih => simpa [cutAtBrace?] using ih
  | case3 depth passed rest ih => simpa [cutAtBrace?] using ih
  | case4 depth passed rest ih =>
      rw [← ih, cutAtBrace?, show depth + 1 + 1 + outer = depth + 1 + outer + 1 by omega]
  | case5 passed rest =>
      rw [show 0 + 1 + outer = outer + 1 by omega, cutAtBrace?]
      simp
  | case6 passed rest depth ih =>
      rw [show depth + 1 + 1 + outer = depth + 1 + outer + 1 by omega, cutAtBrace?]
      exact ih
  | case7 depth passed c rest notEscaped notPair notOpening notClosing ih =>
      rw [← ih, cutAtBrace?]
      · exact notEscaped
      · exact notPair
      · exact notOpening
      · exact notClosing

theorem cutAtBrace?_cons
    {c : Char} {text : Text}
    (quotesNot : c ≠ '\\')
    (closesNot : c ≠ '}')
    (marksNot : ¬ IsMark c text)
    (depth : Nat)
    (passed : Text) :
    cutAtBrace? depth passed (c :: text) = cutAtBrace? depth (c :: passed) text := by
  rw [cutAtBrace?]
  · intro next tail isQuote
    exact (quotesNot isQuote).elim
  · rintro tail rfl rfl
    exact marksNot ⟨rfl, '$', tail, rfl, Or.inl rfl⟩
  · rintro tail rfl rfl
    exact marksNot ⟨rfl, '{', tail, rfl, Or.inr rfl⟩
  · exact closesNot

/-- The search passes balanced text up to the brace behind it. -/
theorem Balanced.cutAtBrace?_append
    {body : Text}
    (balanced : Balanced body)
    (passed after : Text) :
    cutAtBrace? 0 passed (body ++ '}' :: after) = some (passed.reverse ++ body, after) := by
  induction balanced generalizing passed after with
  | nil => simp [cutAtBrace?]
  | escaped c balanced ih =>
      rw [List.cons_append, List.cons_append, cutAtBrace?, ih]
      simp
  | pair balanced ih =>
      rw [List.cons_append, List.cons_append, cutAtBrace?, ih]
      simp
  | @expansion inner rest closed balanced innerIH restIH =>
      have shape :
          ('$' :: '{' :: inner ++ '}' :: rest) ++ '}' :: after =
            '$' :: '{' :: (inner ++ '}' :: (rest ++ '}' :: after)) := by
        simp
      rw [shape, cutAtBrace?, cutAtBrace?_add 0 0, innerIH]
      simp [restIH]
  | @plain c rest quotesNot closesNot marksNot balanced ih =>
      have marksNot : ¬ IsMark c (rest ++ '}' :: after) :=
        fun mark => marksNot mark.of_append_brace
      rw [List.cons_append, cutAtBrace?_cons quotesNot closesNot marksNot, ih]
      simp

/-- A body is closed by a brace exactly when the text in front of that brace is balanced. -/
theorem closeBody?_eq_some_iff
    {text body after : Text} :
    closeBody? text = some (body, after) ↔
      Balanced body ∧ text = body ++ '}' :: after := by
  constructor
  · intro closed
    rcases closesOpen_of_cutAtBrace? closed with ⟨front, rfl, balanced⟩
    exact ⟨balanced, eq_of_closeBody? closed⟩
  · rintro ⟨balanced, rfl⟩
    exact balanced.cutAtBrace?_append [] after

end ParameterExpansion.Template
