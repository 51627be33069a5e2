import ParameterExpansion.Template.Word

/-!
# Words as trees

The words in the operations of a word's expansions are its subwords.  What holds of a word whenever
it holds of its subwords holds of every word.  Two measures of the tree are the depth to which words
are nested and the list of all expansions, each before those in its words.
-/

namespace ParameterExpansion.Template

theorem Operation.mem_words_replace_iff
    {Word : Type} {scope : Scope} {pattern replacement word : Word} :
    word ∈ (Operation.replace scope pattern replacement).words ↔
      word = pattern ∨ word = replacement := by
  simp [Operation.words]

theorem Operation.sizeOf_lt_of_mem_words
    {inner : List Part} {operation : Operation (List Part)}
    (member : inner ∈ operation.words) :
    sizeOf inner < sizeOf operation := by
  cases operation with
  | value | length | changeCase | substring | orFail => simp [Operation.words] at member
  | fallback colon sign word =>
      rcases List.mem_singleton.mp member with rfl
      rw [Operation.fallback.sizeOf_spec]
      omega
  | alternative colon word =>
      rcases List.mem_singleton.mp member with rfl
      rw [Operation.alternative.sizeOf_spec]
      omega
  | orFailWith colon message =>
      rcases List.mem_singleton.mp member with rfl
      rw [Operation.orFailWith.sizeOf_spec]
      omega
  | remove side longest pattern =>
      rcases List.mem_singleton.mp member with rfl
      rw [Operation.remove.sizeOf_spec]
      omega
  | replace scope pattern replacement =>
      rw [Operation.replace.sizeOf_spec]
      rcases Operation.mem_words_replace_iff.mp member with rfl | rfl
      · omega
      · omega

/-- What a word has if its subwords have it, every word has. -/
theorem word_induction
    {motive : List Part → Prop}
    (step : ∀ word,
      (∀ name operation raw, .expansion name operation raw ∈ word →
        ∀ inner ∈ operation.words, motive inner) →
      motive word)
    (word : List Part) :
    motive word := by
  apply step
  intro name operation raw member inner isInner
  exact word_induction step inner
termination_by sizeOf word
decreasing_by
  have := List.sizeOf_lt_of_mem member
  have := Operation.sizeOf_lt_of_mem_words isInner
  simp only [Part.expansion.sizeOf_spec] at *
  omega

/-! ## Nesting -/

mutual

/-- How deep words are nested in a part. -/
def partNesting : Part → Nat
  | .literal _ => 0
  | .escaped _ => 0
  | .expansion _ operation _ => operationNesting operation

/-- How deep words are nested in an operation: not at all in one without words. -/
def operationNesting : Operation (List Part) → Nat
  | .value | .length | .changeCase _ _ | .substring _ _ | .orFail _ => 0
  | .fallback _ _ word => wordNesting word + 1
  | .alternative _ word => wordNesting word + 1
  | .orFailWith _ message => wordNesting message + 1
  | .remove _ _ pattern => wordNesting pattern + 1
  | .replace _ pattern replacement => max (wordNesting pattern) (wordNesting replacement) + 1

/-- How deep words are nested in a word. -/
def wordNesting : List Part → Nat
  | [] => 0
  | part :: rest => max (partNesting part) (wordNesting rest)

end

theorem partNesting_le_wordNesting
    {part : Part} {word : List Part}
    (member : part ∈ word) :
    partNesting part ≤ wordNesting word := by
  induction word with
  | nil => simp at member
  | cons first rest ih =>
      rw [wordNesting]
      rcases List.mem_cons.mp member with rfl | member
      · exact Nat.le_max_left _ _
      · exact Nat.le_trans (ih member) (Nat.le_max_right _ _)

theorem wordNesting_lt_operationNesting
    {inner : List Part} {operation : Operation (List Part)}
    (member : inner ∈ operation.words) :
    wordNesting inner < operationNesting operation := by
  cases operation with
  | value | length | changeCase | substring | orFail => simp [Operation.words] at member
  | fallback | alternative | orFailWith | remove =>
      rcases List.mem_singleton.mp member with rfl
      exact Nat.lt_succ_self _
  | replace scope pattern replacement =>
      rcases Operation.mem_words_replace_iff.mp member with rfl | rfl
      · exact Nat.lt_succ_of_le (Nat.le_max_left _ _)
      · exact Nat.lt_succ_of_le (Nat.le_max_right _ _)

/-- A subword is nested less deep than the word. -/
theorem wordNesting_lt_of_mem
    {name : Name} {operation : Operation (List Part)} {raw : Text} {word inner : List Part}
    (member : .expansion name operation raw ∈ word)
    (isInner : inner ∈ operation.words) :
    wordNesting inner < wordNesting word := by
  exact Nat.lt_of_lt_of_le
    (wordNesting_lt_operationNesting isInner)
    (partNesting_le_wordNesting member)

theorem partNesting_le
    {part : Part} {bound : Nat}
    (deep : ∀ name operation raw, part = .expansion name operation raw →
      ∀ inner ∈ operation.words, wordNesting inner < bound) :
    partNesting part ≤ bound := by
  cases part with
  | literal text => exact Nat.zero_le bound
  | escaped text => exact Nat.zero_le bound
  | expansion name operation raw =>
      have inner := deep name operation raw rfl
      cases operation with
      | value | length | changeCase | substring | orFail => exact Nat.zero_le bound
      | fallback | alternative | orFailWith | remove => exact inner _ (List.mem_singleton_self _)
      | replace scope pattern replacement =>
          have patternDeep := inner pattern (Operation.mem_words_replace_iff.mpr (Or.inl rfl))
          have replacementDeep :=
            inner replacement (Operation.mem_words_replace_iff.mpr (Or.inr rfl))
          exact Nat.succ_le_of_lt (Nat.max_lt.mpr ⟨patternDeep, replacementDeep⟩)

/-- A word is nested no deeper than one more than the deepest of its subwords. -/
theorem wordNesting_le
    {word : List Part} {bound : Nat}
    (deep : ∀ name operation raw, .expansion name operation raw ∈ word →
      ∀ inner ∈ operation.words, wordNesting inner < bound) :
    wordNesting word ≤ bound := by
  induction word with
  | nil => exact Nat.zero_le bound
  | cons part rest ih =>
      rw [wordNesting]
      apply Nat.max_le.mpr
      constructor
      · apply partNesting_le
        rintro name operation raw rfl
        exact deep name operation raw List.mem_cons_self
      · apply ih
        intro name operation raw member
        exact deep name operation raw (List.mem_cons_of_mem part member)

/-! ## All expansions -/

mutual

/-- The expansions in a part, its own first. -/
def partExpansions : Part → List Part
  | .literal _ => []
  | .escaped _ => []
  | .expansion name operation raw =>
      .expansion name operation raw :: operationExpansions operation

/-- The expansions in the words of an operation. -/
def operationExpansions : Operation (List Part) → List Part
  | .value | .length | .changeCase _ _ | .substring _ _ | .orFail _ => []
  | .fallback _ _ word => wordExpansions word
  | .alternative _ word => wordExpansions word
  | .orFailWith _ message => wordExpansions message
  | .remove _ _ pattern => wordExpansions pattern
  | .replace _ pattern replacement => wordExpansions pattern ++ wordExpansions replacement

/-- The expansions at any depth of a word. -/
def wordExpansions : List Part → List Part
  | [] => []
  | part :: rest => partExpansions part ++ wordExpansions rest

end

theorem partExpansions_subset_of_mem
    {part : Part} {word : List Part}
    (member : part ∈ word) :
    partExpansions part ⊆ wordExpansions word := by
  induction word with
  | nil => simp at member
  | cons first rest ih =>
      rw [wordExpansions]
      rcases List.mem_cons.mp member with rfl | member
      · exact List.subset_append_left _ _
      · exact List.subset_append_of_subset_right _ (ih member)

theorem wordExpansions_subset_operationExpansions
    {inner : List Part} {operation : Operation (List Part)}
    (member : inner ∈ operation.words) :
    wordExpansions inner ⊆ operationExpansions operation := by
  cases operation with
  | value | length | changeCase | substring | orFail => simp [Operation.words] at member
  | fallback | alternative | orFailWith | remove =>
      rcases List.mem_singleton.mp member with rfl
      exact List.Subset.refl _
  | replace scope pattern replacement =>
      rcases Operation.mem_words_replace_iff.mp member with rfl | rfl
      · exact List.subset_append_left _ _
      · exact List.subset_append_right _ _

theorem mem_wordExpansions_of_mem
    {name : Name} {operation : Operation (List Part)} {raw : Text} {word : List Part}
    (member : .expansion name operation raw ∈ word) :
    .expansion name operation raw ∈ wordExpansions word := by
  apply partExpansions_subset_of_mem member
  exact List.mem_cons_self

/-- The expansions of a subword are expansions of the word. -/
theorem wordExpansions_subset_of_mem
    {name : Name} {operation : Operation (List Part)} {raw : Text} {word inner : List Part}
    (member : .expansion name operation raw ∈ word)
    (isInner : inner ∈ operation.words) :
    wordExpansions inner ⊆ wordExpansions word := by
  intro part isPart
  apply partExpansions_subset_of_mem member
  apply List.mem_cons_of_mem
  exact wordExpansions_subset_operationExpansions isInner isPart

theorem exists_of_mem_operationExpansions
    {part : Part} {operation : Operation (List Part)}
    (member : part ∈ operationExpansions operation) :
    ∃ inner ∈ operation.words, part ∈ wordExpansions inner := by
  cases operation with
  | value | length | changeCase | substring | orFail => simp [operationExpansions] at member
  | fallback | alternative | orFailWith | remove =>
      exact ⟨_, List.mem_singleton_self _, member⟩
  | replace scope pattern replacement =>
      rcases List.mem_append.mp member with member | member
      · exact ⟨pattern, Operation.mem_words_replace_iff.mpr (Or.inl rfl), member⟩
      · exact ⟨replacement, Operation.mem_words_replace_iff.mpr (Or.inr rfl), member⟩

/-- An expansion of a word is one of its parts, or an expansion of one of its subwords. -/
theorem mem_or_exists_of_mem_wordExpansions
    {part : Part} {word : List Part}
    (member : part ∈ wordExpansions word) :
    part ∈ word ∨
      ∃ name operation raw, .expansion name operation raw ∈ word ∧
        ∃ inner ∈ operation.words, part ∈ wordExpansions inner := by
  induction word with
  | nil => simp [wordExpansions] at member
  | cons first rest ih =>
      rcases List.mem_append.mp member with own | others
      · cases first with
        | literal text => simp [partExpansions] at own
        | escaped text => simp [partExpansions] at own
        | expansion name operation raw =>
            rcases List.mem_cons.mp own with rfl | inside
            · exact Or.inl List.mem_cons_self
            · have inner := exists_of_mem_operationExpansions inside
              exact Or.inr ⟨name, operation, raw, List.mem_cons_self, inner⟩
      · rcases ih others with isPart | ⟨name, operation, raw, isPart, inner⟩
        · exact Or.inl (List.mem_cons_of_mem first isPart)
        · exact Or.inr ⟨name, operation, raw, List.mem_cons_of_mem first isPart, inner⟩

end ParameterExpansion.Template
