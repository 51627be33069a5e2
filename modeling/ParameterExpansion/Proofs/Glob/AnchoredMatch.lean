import Mathlib.Order.Bounds.Basic
import ParameterExpansion.Glob.Match
import ParameterExpansion.Proofs.Glob.Language

/-!
# Anchored matches are exact

Following a pattern through a text keeps positions in the pattern.  A position stands for the tokens
from it on, and what carries the proofs is that reading one character leads from the positions in
hand to positions that stand for exactly what is left to match.  The lengths of the matching
prefixes are then found in ascending order, so the first is the least and the last is the greatest.
Suffixes follow because a reversed pattern stands for the reversed texts.
-/

namespace ParameterExpansion.Glob

/-! ## Positions -/

/-- The text matches the tokens of a pattern from a position on. -/
def MatchesFrom (pattern : Array Token) (position : Nat) (text : Text) : Prop :=
  Matches (pattern.toList.drop position) text

theorem matchesFrom_iff_of_size_le
    {pattern : Array Token} {position : Nat}
    (outside : pattern.size ≤ position)
    (text : Text) :
    MatchesFrom pattern position text ↔ text = [] := by
  rw [MatchesFrom, List.drop_eq_nil_of_le (by simpa using outside)]
  exact matches_nil_iff text

theorem matchesFrom_eq_of_lt
    {pattern : Array Token} {position : Nat}
    (inside : position < pattern.size)
    (text : Text) :
    MatchesFrom pattern position text =
      Matches (pattern[position] :: pattern.toList.drop (position + 1)) text := by
  rw [MatchesFrom, List.drop_eq_getElem_cons (by simpa using inside)]
  simp

/-- A text matches from a position if what follows its first character does from a next one. -/
theorem matchesFrom_cons_iff
    (pattern : Array Token)
    (c : Char)
    (position : Nat)
    (text : Text) :
    MatchesFrom pattern position (c :: text) ↔
      ∃ next ∈ positionsAfter pattern c position, MatchesFrom pattern next text := by
  fun_induction positionsAfter pattern c position with
  | case1 position inside star ih =>
      rw [matchesFrom_eq_of_lt inside, star, matches_star_cons_iff, ← MatchesFrom, ih]
      have stays :
          Matches (.star :: pattern.toList.drop (position + 1)) text ↔
            MatchesFrom pattern position text := by
        rw [matchesFrom_eq_of_lt inside, star]
      rw [stays]
      simp
  | case2 position inside notStar contained =>
      rw [matchesFrom_eq_of_lt inside, matches_cons_cons_iff_of_ne_star notStar]
      simp [contained, MatchesFrom]
  | case3 position inside notStar excluded =>
      rw [matchesFrom_eq_of_lt inside, matches_cons_cons_iff_of_ne_star notStar]
      simp [excluded]
  | case4 position outside =>
      rw [matchesFrom_iff_of_size_le (by omega)]
      simp

/-- Only stars are left at a position exactly when the empty text matches there. -/
theorem isClosed_iff
    (pattern : Array Token)
    (position : Nat) :
    isClosed pattern position = true ↔ MatchesFrom pattern position [] := by
  fun_induction isClosed pattern position with
  | case1 position inside ih =>
      rw [matchesFrom_eq_of_lt inside, Bool.and_eq_true, beq_iff_eq, ih]
      by_cases star : pattern[position] = .star
      · rw [star, matches_star_nil_iff]
        simp [MatchesFrom]
      · simp [star, not_matches_nil_of_ne_star star]
  | case2 position outside =>
      rw [matchesFrom_iff_of_size_le (by omega)]
      simp

/-! ## Lengths of matching prefixes -/

/-- The lengths of the prefixes of a text that match from one of some positions. -/
def lengthsFrom (pattern : Array Token) (positions : List Nat) (text : Text) : Set Nat :=
  {length | length ≤ text.length ∧
    ∃ position ∈ positions, MatchesFrom pattern position (text.take length)}

theorem zero_mem_lengthsFrom_iff
    (pattern : Array Token)
    (positions : List Nat)
    (text : Text) :
    0 ∈ lengthsFrom pattern positions text ↔
      positions.any (isClosed pattern) = true := by
  simp [lengthsFrom, isClosed_iff]

/-- Reading a character shortens every other matching prefix by one. -/
theorem succ_mem_lengthsFrom_iff
    (pattern : Array Token)
    (positions : List Nat)
    (c : Char)
    (text : Text)
    (length : Nat) :
    length + 1 ∈ lengthsFrom pattern positions (c :: text) ↔
      length ∈ lengthsFrom pattern (advance pattern c positions) text := by
  simp only [lengthsFrom, Set.mem_ofPred_eq, List.length_cons, Nat.add_le_add_iff_right,
    List.take_succ_cons, matchesFrom_cons_iff, mem_advance]
  constructor
  · rintro ⟨bound, position, member, next, step, rests⟩
    exact ⟨bound, next, ⟨position, member, step⟩, rests⟩
  · rintro ⟨bound, next, ⟨position, member, step⟩, rests⟩
    exact ⟨bound, position, member, next, step, rests⟩

theorem lengthsFrom_nil_positions
    (pattern : Array Token)
    (text : Text) :
    lengthsFrom pattern [] text = ∅ := by
  simp [lengthsFrom]

theorem eq_zero_of_mem_lengthsFrom_nil
    {pattern : Array Token} {positions : List Nat} {length : Nat}
    (member : length ∈ lengthsFrom pattern positions []) :
    length = 0 := by
  exact Nat.le_zero.mp member.1

/-! ## Results of a search -/

/-- The greatest or the least of some numbers. -/
def IsExtreme : Bool → Set Nat → Nat → Prop
  | true => IsGreatest
  | false => IsLeast

theorem IsExtreme.mem
    {longest : Bool} {numbers : Set Nat} {number : Nat}
    (extreme : IsExtreme longest numbers number) :
    number ∈ numbers := by
  cases longest with
  | true => exact And.left extreme
  | false => exact And.left extreme

theorem IsExtreme.unique
    {longest : Bool} {numbers : Set Nat} {left right : Nat}
    (leftExtreme : IsExtreme longest numbers left)
    (rightExtreme : IsExtreme longest numbers right) :
    left = right := by
  cases longest with
  | true => exact IsGreatest.unique leftExtreme rightExtreme
  | false => exact IsLeast.unique leftExtreme rightExtreme

/-- The greatest or the least of some numbers as a search returns it: nothing if there are none. -/
def IsFound (longest : Bool) (numbers : Set Nat) : Option Nat → Prop
  | none => numbers = ∅
  | some number => IsExtreme longest numbers number

theorem IsFound.eq_none_iff
    {longest : Bool} {numbers : Set Nat} {found : Option Nat}
    (isFound : IsFound longest numbers found) :
    found = none ↔ numbers = ∅ := by
  constructor
  · rintro rfl
    exact isFound
  · rintro rfl
    cases found with
    | none => rfl
    | some number => exact (Set.notMem_empty number (IsExtreme.mem isFound)).elim

theorem IsFound.eq_some_iff
    {longest : Bool} {numbers : Set Nat} {found : Option Nat}
    (isFound : IsFound longest numbers found)
    (number : Nat) :
    found = some number ↔ IsExtreme longest numbers number := by
  constructor
  · rintro rfl
    exact isFound
  · intro extreme
    cases found with
    | none =>
        have empty : numbers = ∅ := isFound
        rw [empty] at extreme
        exact (Set.notMem_empty number extreme.mem).elim
    | some other => exact congrArg some (IsExtreme.unique isFound extreme)

/--
Numbers are found where their predecessors are, and zero is left if there are none.  A search for
the least number must not have come past zero.
-/
theorem IsFound.map_succ_or
    {longest : Bool} {numbers predecessors : Set Nat} {found zero? : Option Nat}
    (isFound : IsFound longest predecessors found)
    (step : ∀ number, number + 1 ∈ numbers ↔ number ∈ predecessors)
    (zero : ∀ number, zero? = some number ↔ number = 0 ∧ 0 ∈ numbers)
    (passed : longest = false → 0 ∉ numbers) :
    IsFound longest numbers ((found.map (· + 1)).or zero?) := by
  cases found with
  | none =>
      have empty : predecessors = ∅ := isFound
      have onlyZero : ∀ number ∈ numbers, number = 0 := by
        intro number member
        cases number with
        | zero => rfl
        | succ before => simp [step, empty] at member
      cases zero? with
      | none =>
          apply Set.eq_empty_iff_forall_notMem.mpr
          intro number member
          obtain rfl := onlyZero number member
          simpa using (zero 0).mpr ⟨rfl, member⟩
      | some number =>
          obtain ⟨rfl, member⟩ := (zero number).mp rfl
          cases longest with
          | true => exact ⟨member, fun other isOther => (onlyZero other isOther).le⟩
          | false => exact (passed rfl member).elim
  | some before =>
      have member : before + 1 ∈ numbers := (step before).mpr (IsExtreme.mem isFound)
      cases longest with
      | true =>
          refine ⟨member, ?_⟩
          intro number other
          cases number with
          | zero => exact Nat.zero_le _
          | succ number => exact Nat.succ_le_succ (isFound.2 ((step number).mp other))
      | false =>
          refine ⟨member, ?_⟩
          intro number other
          cases number with
          | zero => exact (passed rfl other).elim
          | succ number => exact Nat.succ_le_succ (isFound.2 ((step number).mp other))

/-! ## Following a pattern -/

theorem isFound_zero
    {longest : Bool} {pattern : Array Token} {positions : List Nat} {text : Text}
    (closed : positions.any (isClosed pattern) = true)
    (stops : longest = true → text = []) :
    IsFound longest (lengthsFrom pattern positions text) (some 0) := by
  have member := (zero_mem_lengthsFrom_iff pattern positions text).mpr closed
  cases longest with
  | true =>
      rcases stops rfl with rfl
      exact ⟨member, fun _ other => (eq_zero_of_mem_lengthsFrom_nil other).le⟩
  | false => exact ⟨member, fun _ _ => Nat.zero_le _⟩

/-- The search goes on from the next character unless it is over. -/
theorem matchFrom_cons
    {longest : Bool} {pattern : Array Token} {positions : List Nat} {passed : Nat}
    {before : Option Nat}
    (nonempty : positions ≠ [])
    (fresh : longest = false →
      (if positions.any (isClosed pattern) then some passed else before) = none)
    (c : Char)
    (text : Text) :
    matchFrom longest pattern positions passed before (c :: text) =
      matchFrom longest pattern (advance pattern c positions) (passed + 1)
        (if positions.any (isClosed pattern) then some passed else before) text := by
  rw [matchFrom]
  apply if_neg
  cases longest with
  | true => simp [nonempty]
  | false =>
      rw [fresh rfl]
      simp [nonempty]

/-- Following a pattern through a text finds the extreme length, or else what was found before. -/
theorem matchFrom_isFound
    {before : Option Nat}
    (longest : Bool)
    (pattern : Array Token)
    (positions : List Nat)
    (passed : Nat)
    (text : Text)
    (fresh : longest = false → before = none) :
    ∃ found,
      IsFound longest (lengthsFrom pattern positions text) found ∧
        matchFrom longest pattern positions passed before text =
          (found.map (passed + ·)).or before := by
  induction text generalizing positions passed before with
  | nil =>
      by_cases closed : positions.any (isClosed pattern) = true
      · refine ⟨some 0, isFound_zero closed (fun _ => rfl), ?_⟩
        simp [matchFrom, closed]
      · refine ⟨none, ?_, by simp [matchFrom, closed]⟩
        apply Set.eq_empty_iff_forall_notMem.mpr
        intro length member
        rcases eq_zero_of_mem_lengthsFrom_nil member with rfl
        exact closed ((zero_mem_lengthsFrom_iff pattern positions []).mp member)
  | cons c text ih =>
      by_cases stops : longest = false ∧ positions.any (isClosed pattern) = true
      · rcases stops with ⟨rfl, closed⟩
        refine ⟨some 0, isFound_zero closed (by simp), ?_⟩
        simp [matchFrom, closed]
      by_cases empty : positions = []
      · subst positions
        exact ⟨none, lengthsFrom_nil_positions pattern _, by simp [matchFrom]⟩
      -- Otherwise the search goes on, and a closed position counts only for the longest match.
      let now := if positions.any (isClosed pattern) then some passed else before
      let zero? := if positions.any (isClosed pattern) then some 0 else none
      have freshNow : longest = false → now = none := by
        intro shortest
        have opened := mt (And.intro shortest) stops
        simp only [now, if_neg opened, fresh shortest]
      rcases ih (advance pattern c positions) (passed + 1) freshNow with ⟨found, isFound, result⟩
      refine ⟨(found.map (· + 1)).or zero?, ?_, ?_⟩
      · apply isFound.map_succ_or (succ_mem_lengthsFrom_iff pattern positions c text)
        · intro number
          rw [zero_mem_lengthsFrom_iff]
          by_cases closed : positions.any (isClosed pattern) = true
          · simp [zero?, closed, eq_comm]
          · simp [zero?, closed]
        · intro shortest
          rw [zero_mem_lengthsFrom_iff]
          exact mt (And.intro shortest) stops
      · rw [matchFrom_cons empty freshNow, result]
        by_cases closed : positions.any (isClosed pattern) = true
        all_goals cases found <;> simp [now, zero?, closed, Nat.add_comm, Nat.add_left_comm]

/-! ## Prefixes and suffixes -/

/-- The lengths of the prefixes of a text that match a pattern. -/
def prefixLengths (pattern : List Token) (text : Text) : Set Nat :=
  {length | length ≤ text.length ∧ Matches pattern (text.take length)}

/-- The places in a text at which suffixes start that match a pattern. -/
def suffixStarts (pattern : List Token) (text : Text) : Set Nat :=
  {start | start ≤ text.length ∧ Matches pattern (text.drop start)}

theorem matchPrefix?_isFound
    (longest : Bool)
    (pattern : List Token)
    (text : Text) :
    IsFound longest (prefixLengths pattern text) (matchPrefix? longest pattern text) := by
  rcases matchFrom_isFound longest pattern.toArray [0] 0 text (fun _ => rfl) with
    ⟨found, isFound, result⟩
  have lengths : lengthsFrom pattern.toArray [0] text = prefixLengths pattern text := by
    simp [lengthsFrom, prefixLengths, MatchesFrom]
  rw [matchPrefix?, result, ← lengths]
  simpa using isFound

/--
A search for the shortest match returns the least length of a matching prefix, one for the longest
match the greatest, and nothing is returned exactly when no prefix matches.
-/
theorem matchPrefix?_eq_iff
    (pattern : List Token)
    (text : Text) :
    (∀ length,
      matchPrefix? false pattern text = some length ↔
        IsLeast (prefixLengths pattern text) length) ∧
    (∀ length,
      matchPrefix? true pattern text = some length ↔
        IsGreatest (prefixLengths pattern text) length) ∧
    ∀ longest,
      matchPrefix? longest pattern text = none ↔
        ∀ length ≤ text.length, ¬ Matches pattern (text.take length) := by
  refine ⟨?_, ?_, ?_⟩
  · exact (matchPrefix?_isFound false pattern text).eq_some_iff
  · exact (matchPrefix?_isFound true pattern text).eq_some_iff
  · intro longest
    rw [(matchPrefix?_isFound longest pattern text).eq_none_iff, Set.eq_empty_iff_forall_notMem]
    constructor
    · intro none length bound matched
      exact none length ⟨bound, matched⟩
    · intro none length member
      exact none length member.1 member.2

/-- A reversed prefix of the reversed text is a suffix of the text. -/
theorem mem_prefixLengths_reverse_iff
    {pattern : List Token} {text : Text} {length : Nat} :
    length ∈ prefixLengths pattern.reverse text.reverse ↔
      length ≤ text.length ∧ text.length - length ∈ suffixStarts pattern text := by
  simp only [prefixLengths, suffixStarts, Set.mem_ofPred_eq, List.length_reverse,
    List.take_reverse, matches_reverse_iff]
  constructor
  · rintro ⟨bound, matched⟩
    exact ⟨bound, Nat.sub_le _ _, matched⟩
  · rintro ⟨bound, _, matched⟩
    exact ⟨bound, matched⟩

theorem sub_mem_prefixLengths_reverse
    {pattern : List Token} {text : Text} {start : Nat}
    (member : start ∈ suffixStarts pattern text) :
    text.length - start ∈ prefixLengths pattern.reverse text.reverse := by
  rw [mem_prefixLengths_reverse_iff, Nat.sub_sub_self member.1]
  exact ⟨Nat.sub_le _ _, member⟩

theorem matchSuffix?_isFound
    (longest : Bool)
    (pattern : List Token)
    (text : Text) :
    IsFound (!longest) (suffixStarts pattern text) (matchSuffix? longest pattern text) := by
  have isFound := matchPrefix?_isFound longest pattern.reverse text.reverse
  rw [matchSuffix?]
  cases found : matchPrefix? longest pattern.reverse text.reverse with
  | none =>
      apply Set.eq_empty_iff_forall_notMem.mpr
      intro start member
      have empty := isFound.eq_none_iff.mp found
      simpa [empty] using sub_mem_prefixLengths_reverse member
  | some length =>
      have extreme := (isFound.eq_some_iff length).mp found
      rcases mem_prefixLengths_reverse_iff.mp extreme.mem with ⟨bound, member⟩
      cases longest with
      | true =>
          refine ⟨member, ?_⟩
          intro start other
          have := extreme.2 (sub_mem_prefixLengths_reverse other)
          change text.length - length ≤ start
          omega
      | false =>
          refine ⟨member, ?_⟩
          intro start other
          have := extreme.2 (sub_mem_prefixLengths_reverse other)
          have := other.1
          change start ≤ text.length - length
          omega

end ParameterExpansion.Glob
