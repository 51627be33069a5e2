import ParameterExpansion.Proofs.Template.Balance
import ParameterExpansion.Template.Body

/-!
# Where an expansion is closed

A closing brace closes the expansion whose body starts at a position if the text from there up to the
brace is balanced.  A text has at most one such brace, the search finds it if there is one, and
whether a brace closes the expansion is decided by the text up to that brace: what stands in front of
the body or behind the brace plays no part.
-/

namespace ParameterExpansion.Template

/-- A closing brace stands at the position, and the text from the start up to it is balanced. -/
structure IsClosedAt (text : Text) (start position : Nat) : Prop where
  follows : start ≤ position
  isBrace : text[position]? = some '}'
  balanced : Balanced (text.extract start position)

/-- An expansion is closed behind a balanced body that a closing brace follows. -/
theorem isClosedAt_iff_isPrefix
    {text : Text} {start position : Nat} :
    IsClosedAt text start position ↔
      ∃ body, Balanced body ∧ body ++ ['}'] <+: text.drop start ∧
        position = start + body.length := by
  constructor
  · rintro ⟨follows, isBrace, balanced⟩
    rcases List.getElem?_eq_some_iff.mp isBrace with ⟨inside, isBrace⟩
    have size : (text.extract start position).length = position - start := by
      rw [List.extract_eq_take_drop, List.length_take, List.length_drop]
      omega
    have whole :
        text.extract start position ++ '}' :: text.drop (position + 1) = text.drop start := by
      have behind : text.drop position = (text.drop start).drop (position - start) := by
        rw [List.drop_drop, Nat.add_sub_cancel' follows]
      rw [← isBrace, ← List.drop_eq_getElem_cons inside, behind, List.extract_eq_take_drop,
        List.take_append_drop]
    refine ⟨_, balanced, ⟨text.drop (position + 1), ?_⟩, by omega⟩
    rw [List.append_assoc, List.singleton_append, whole]
  · rintro ⟨body, balanced, ⟨after, whole⟩, rfl⟩
    have cut : text.drop start = body ++ '}' :: after := by
      rw [← whole, List.append_assoc, List.singleton_append]
    refine ⟨Nat.le_add_right _ _, ?_, ?_⟩
    · rw [← List.getElem?_drop, cut, List.getElem?_append_right (Nat.le_refl _), Nat.sub_self]
      rfl
    · rwa [List.extract_eq_take_drop, cut, Nat.add_sub_cancel_left, List.take_left]

/-- The search finds the brace that closes the expansion. -/
theorem closingBrace?_eq_some_iff
    {text : Text} {start position : Nat} :
    closingBrace? text start = some position ↔ IsClosedAt text start position := by
  rw [isClosedAt_iff_isPrefix, closingBrace?, Option.map_eq_some_iff]
  constructor
  · rintro ⟨⟨body, after⟩, closed, rfl⟩
    rcases closeBody?_eq_some_iff.mp closed with ⟨balanced, cut⟩
    refine ⟨body, balanced, ⟨after, ?_⟩, rfl⟩
    rw [cut, List.append_assoc, List.singleton_append]
  · rintro ⟨body, balanced, ⟨after, whole⟩, rfl⟩
    refine ⟨(body, after), closeBody?_eq_some_iff.mpr ⟨balanced, ?_⟩, rfl⟩
    rw [← whole, List.append_assoc, List.singleton_append]

/-- An expansion that stands in a text is closed by its own brace. -/
theorem Balanced.closingBrace?_eq
    {text body rest : Text} {position : Nat}
    (balanced : Balanced body)
    (stands : text.drop position = enclose body ++ rest) :
    closingBrace? text (position + 2) = some (position + (enclose body).length - 1) := by
  refine closingBrace?_eq_some_iff.mpr (isClosedAt_iff_isPrefix.mpr ⟨body, balanced, ?_, ?_⟩)
  · refine ⟨rest, ?_⟩
    rw [← List.drop_drop, stands, enclose]
    rfl
  · rw [length_enclose]
    omega

/-- An opening mark starts an expansion that stands in the text if it is closed. -/
theorem exists_enclose_of_closingBrace?
    {text rest : Text} {position close : Nat}
    (opens : text.drop position = '$' :: '{' :: rest)
    (closed : closingBrace? text (position + 2) = some close) :
    ∃ body after, Balanced body ∧ text.drop position = enclose body ++ after ∧
      close + 1 = position + (enclose body).length := by
  rcases isClosedAt_iff_isPrefix.mp (closingBrace?_eq_some_iff.mp closed) with
    ⟨body, balanced, ⟨after, whole⟩, rfl⟩
  refine ⟨body, after, balanced, ?_, ?_⟩
  · rw [← List.drop_drop, opens] at whole
    rw [opens, enclose, List.cons_append, List.cons_append, List.cons_append, List.cons_append, whole]
    rfl
  · rw [length_enclose]
    omega

/-- The same text from the start of the body up to the brace is closed at that brace elsewhere too. -/
theorem IsClosedAt.of_extract_eq
    {text other : Text} {start start' position : Nat}
    (closed : IsClosedAt text start position)
    (same : other.extract start' (start' + (position - start) + 1) =
      text.extract start (position + 1)) :
    IsClosedAt other start' (start' + (position - start)) := by
  rcases isClosedAt_iff_isPrefix.mp closed with ⟨body, balanced, isPrefix, rfl⟩
  rw [Nat.add_sub_cancel_left] at same ⊢
  have taken : text.extract start (start + body.length + 1) = body ++ ['}'] := by
    rw [List.prefix_iff_eq_take.mp isPrefix, List.extract_eq_take_drop, List.length_append,
      Nat.add_assoc, Nat.add_sub_cancel_left]
    rfl
  refine isClosedAt_iff_isPrefix.mpr ⟨body, balanced, ?_, rfl⟩
  rw [← taken, ← same, List.extract_eq_take_drop]
  exact List.take_prefix _ _

/--
The search for the closing brace finds a position exactly if a closing brace stands there behind a
balanced body.  There is at most one such position, and if there is none the search finds nothing.
What it finds depends on the text from the start of the body up to the brace and on nothing else:
wherever that text stands, the brace at its end is found.
-/
theorem closingBrace?_eq_iff_isClosedAt
    (text : Text)
    (start : Nat) :
    (∀ position, closingBrace? text start = some position ↔ IsClosedAt text start position) ∧
    (∀ position position',
      IsClosedAt text start position → IsClosedAt text start position' →
        position = position') ∧
    (closingBrace? text start = none ↔ ∀ position, ¬ IsClosedAt text start position) ∧
    ∀ position, closingBrace? text start = some position →
      ∀ (other : Text) (start' : Nat),
        other.extract start' (start' + (position - start) + 1) =
            text.extract start (position + 1) →
          closingBrace? other start' = some (start' + (position - start)) := by
  refine ⟨fun _ => closingBrace?_eq_some_iff, ?_, ?_, ?_⟩
  · intro position position' closed closed'
    have found := closingBrace?_eq_some_iff.mpr closed
    rw [closingBrace?_eq_some_iff.mpr closed'] at found
    exact (Option.some.inj found).symm
  · rw [Option.eq_none_iff_forall_not_mem]
    exact forall_congr' fun _ => not_congr closingBrace?_eq_some_iff
  · intro position found other start' same
    have closed := closingBrace?_eq_some_iff.mp found
    exact closingBrace?_eq_some_iff.mpr (closed.of_extract_eq same)

/--
A quoted brace, an inner expansion and a dollar in front of the brace do not close the expansion
early, and neither does what stands around it.
-/
theorem closingBrace?_eq_iff_isClosedAt_dollar :
    let text := ['$', '{', 'x', '-', '\\', '}', '$', '{', 'y', '}', '$', '}', '}']
    let other := ['\\', 'x', '-', '\\', '}', '$', '{', 'y', '}', '$', '}', '{', '}']
    IsClosedAt text 2 11 ∧ closingBrace? other 1 = some 10 := by
  intro text other
  rcases closingBrace?_eq_iff_isClosedAt text 2 with ⟨closes, _, _, spreads⟩
  have found : closingBrace? text 2 = some 11 := rfl
  exact ⟨(closes 11).mp found, spreads 11 found other 1 rfl⟩

end ParameterExpansion.Template
