import Mathlib.Data.List.TakeWhile
import ParameterExpansion.Text.Basic

/-!
# Cutting text at characters

What the cuts of text return, stated without the way in which they search: a run of characters of a
class ends in front of the first character outside it, a mark cuts text where it stands first, and
text is trimmed to the part between the characters of a class around it.
-/

namespace ParameterExpansion.Text

/-! ## Runs of a class -/

section Runs

variable {belongs : Char → Bool} {run rest : Text}

theorem takeWhile_append_of_head?
    (all : ∀ c ∈ run, belongs c = true)
    (ends : ∀ c ∈ rest.head?, belongs c = false) :
    (run ++ rest).takeWhile belongs = run := by
  rw [List.takeWhile_append_of_pos all]
  cases rest with
  | nil => rw [List.takeWhile_nil, List.append_nil]
  | cons c rest =>
      have stops := ends c rfl
      rw [List.takeWhile_cons, stops]
      exact List.append_nil run

theorem dropWhile_append_of_head?
    (all : ∀ c ∈ run, belongs c = true)
    (ends : ∀ c ∈ rest.head?, belongs c = false) :
    (run ++ rest).dropWhile belongs = rest := by
  rw [List.dropWhile_append_of_pos all]
  cases rest with
  | nil => rfl
  | cons c rest =>
      have stops := ends c rfl
      rw [List.dropWhile_cons, stops]
      rfl

theorem eq_false_of_mem_head?_dropWhile
    {text : Text} {c : Char}
    (first : c ∈ (text.dropWhile belongs).head?) :
    belongs c = false := by
  have stops := List.head?_dropWhile_not belongs text
  rw [Option.mem_def] at first
  rwa [first] at stops

end Runs

/-! ## The first mark -/

/-- The parts of a text in front of the first mark and behind it, if it has one. -/
inductive CutsAt (mark : Char) : Text → Text → Option Text → Prop where
  | whole {text : Text} (absent : mark ∉ text) : CutsAt mark text text none
  | parts {front : Text} (absent : mark ∉ front) (tail : Text) :
      CutsAt mark (front ++ mark :: tail) front (some tail)

/-- The parts stand in the text. -/
theorem CutsAt.isInfix
    {mark : Char} {text front : Text} {tail? : Option Text}
    (cuts : CutsAt mark text front tail?) :
    front <:+: text ∧ ∀ tail ∈ tail?, tail <:+: text := by
  cases cuts with
  | whole absent => exact ⟨List.infix_refl text, by simp⟩
  | parts absent tail =>
      refine ⟨(List.prefix_append front _).isInfix, ?_⟩
      rintro tail ⟨⟩
      exact ⟨front ++ [mark], [], by simp⟩

theorem ne_of_not_mem
    {mark : Char} {text : Text}
    (absent : mark ∉ text) :
    ∀ c ∈ text, (c != mark) = true := by
  intro c member
  rw [bne_iff_ne]
  rintro rfl
  exact absent member

/-- A cut at a mark returns the parts. -/
theorem cutAtFirst_eq_iff
    {mark : Char} {text front : Text} {tail? : Option Text} :
    text.cutAtFirst mark = (front, tail?) ↔ CutsAt mark text front tail? := by
  constructor
  · intro cut
    have whole := List.takeWhile_append_dropWhile (p := (· != mark)) (l := text)
    have before : mark ∉ text.takeWhile (· != mark) := by
      intro member
      have other := List.mem_takeWhile_imp member
      simp at other
    rw [cutAtFirst] at cut
    split at cut
    · rename_i none
      cases cut
      rw [none, List.append_nil] at whole
      rw [whole] at before
      exact CutsAt.whole before
    · rename_i first tail found
      cases cut
      have firstLeft : first ∈ (text.dropWhile (· != mark)).head? := by
        rw [found]
        rfl
      obtain rfl : first = mark := by simpa using eq_false_of_mem_head?_dropWhile firstLeft
      rw [found] at whole
      have parts := CutsAt.parts before tail
      rwa [whole] at parts
  · intro cuts
    cases cuts with
    | whole absent =>
        rw [cutAtFirst, List.dropWhile_eq_nil_iff.mpr (ne_of_not_mem absent)]
    | parts absent tail =>
        have others := ne_of_not_mem absent
        have ends : ∀ c ∈ (mark :: tail).head?, (c != mark) = false := by simp
        rw [cutAtFirst, dropWhile_append_of_head? others ends, takeWhile_append_of_head? others ends]

/-! ## Trimming -/

/-- What is left of a text without the characters of a class around it. -/
structure IsTrimmedTo (drops : Char → Bool) (text core : Text) : Prop where
  around : ∃ before after, text = before ++ core ++ after ∧
    (∀ c ∈ before, drops c = true) ∧ ∀ c ∈ after, drops c = true
  first : ∀ c ∈ core.head?, drops c = false
  last : ∀ c ∈ core.getLast?, drops c = false

theorem isTrimmedTo_trim (drops : Char → Bool) (text : Text) :
    IsTrimmedTo drops text (text.trim drops) := by
  have front := List.takeWhile_append_dropWhile (p := drops) (l := text)
  have back :
      text.trim drops ++ ((text.dropWhile drops).reverse.takeWhile drops).reverse =
        text.dropWhile drops := by
    rw [trim, ← List.reverse_append, List.takeWhile_append_dropWhile, List.reverse_reverse]
  refine ⟨⟨text.takeWhile drops, ((text.dropWhile drops).reverse.takeWhile drops).reverse,
    ?_, ?_, ?_⟩, ?_, ?_⟩
  · rw [List.append_assoc, back, front]
  · exact fun c member => List.mem_takeWhile_imp member
  · intro c member
    exact List.mem_takeWhile_imp (List.mem_reverse.mp member)
  · -- The core is a prefix of what is left behind the leading characters of the class.
    intro c first
    have firstLeft : c ∈ (text.dropWhile drops).head? := by
      rw [← back, List.head?_append, Option.mem_def.mp first]
      rfl
    exact eq_false_of_mem_head?_dropWhile firstLeft
  · intro c last
    rw [trim, List.getLast?_reverse] at last
    exact eq_false_of_mem_head?_dropWhile last

theorem IsTrimmedTo.trim_eq
    {drops : Char → Bool} {text core : Text}
    (trimmed : IsTrimmedTo drops text core) :
    text.trim drops = core := by
  rcases trimmed with ⟨⟨before, after, rfl, allBefore, allAfter⟩, first, last⟩
  cases core with
  | nil =>
      have all : ∀ c ∈ before ++ [] ++ after, drops c = true := by
        simpa [or_imp, forall_and] using ⟨allBefore, allAfter⟩
      rw [trim, List.dropWhile_eq_nil_iff.mpr all]
      rfl
  | cons c core =>
      have reversed : ∀ c ∈ after.reverse, drops c = true :=
        fun c member => allAfter c (List.mem_reverse.mp member)
      have ends : ∀ other ∈ ((c :: core).reverse).head?, drops other = false := by
        rwa [List.head?_reverse]
      have starts : ∀ other ∈ (c :: core ++ after).head?, drops other = false := first
      rw [trim, List.append_assoc, dropWhile_append_of_head? allBefore starts, List.reverse_append,
        dropWhile_append_of_head? reversed ends, List.reverse_reverse]

/-- Trimming drops what stands around the core and nothing else. -/
theorem trim_eq_iff
    {drops : Char → Bool} {text core : Text} :
    text.trim drops = core ↔ IsTrimmedTo drops text core := by
  constructor
  · rintro rfl
    exact isTrimmedTo_trim drops text
  · exact IsTrimmedTo.trim_eq

end ParameterExpansion.Text
