import Mathlib.Data.List.Forall2
import ParameterExpansion.Expansion.Evaluate
import ParameterExpansion.Proofs.Expansion.Running
import ParameterExpansion.Proofs.Template.Tree

/-!
# Expanding a word part by part

Expanding a word is expanding its parts in order and joining the texts; expanding it as a pattern
keeps the texts apart.  Both are the same traversal of the parts.  By induction over the tree, a word
asks for variables at its expansions only, each expansion at most once and in the order in which
they are written, and fails only with failures that one of its expansions can give.
-/

namespace ParameterExpansion.Template

/-- The text of a quoted part has no meaning in a pattern, and all other texts have. -/
def Part.isActive : Part → Bool
  | .escaped _ => false
  | _ => true

/-- Strict expansion does not accept that the parameter of the operation is not set. -/
def Operation.insists {Word : Type} : Operation Word → Bool
  | .fallback _ _ _ | .alternative _ _ | .orFail _ | .orFailWith _ _ => false
  | _ => true

/-- The failure is one that expanding the part may give, apart from its words. -/
inductive Part.Raises : Part → Failure → Prop where
  | orFail (name : Name) (colon : Bool) (raw : Text) :
      Raises (.expansion name (.orFail colon) raw) (.parameterUnset name [])
  | orFailWith (name : Name) (colon : Bool) (message : List Part) (raw detail : Text) :
      Raises (.expansion name (.orFailWith colon message) raw) (.parameterUnset name detail)
  | substring (name : Name) (offset : Int) {length : Int} (raw : Text) (negative : length < 0) :
      Raises (.expansion name (.substring offset (some length)) raw)
        (.invalid raw (.negativeLength length))

end ParameterExpansion.Template

namespace ParameterExpansion.Expansion

open Template

/-! ## Words as traversals -/

theorem expandParts_eq
    (done : List Text)
    (word : Word) :
    expandParts done word =
      (fun texts => (done.reverse ++ texts).flatten) <$> word.mapM expandPart := by
  induction word generalizing done with
  | nil => simp [expandParts, ← bind_pure_comp]
  | cons part rest ih =>
      cases part with
      | literal text => simp [expandParts, expandPart, ih, ← bind_pure_comp]
      | escaped text => simp [expandParts, expandPart, ih, ← bind_pure_comp]
      | expansion name operation raw => simp [expandParts, ih, ← bind_pure_comp]

theorem expandPieces_eq
    (done : List Glob.Piece)
    (word : Word) :
    expandPieces done word =
      (fun pieces => done.reverse ++ pieces) <$>
        word.mapM fun part => (Glob.Piece.mk · part.isActive) <$> expandPart part := by
  induction word generalizing done with
  | nil => simp [expandPieces, ← bind_pure_comp]
  | cons part rest ih =>
      cases part with
      | literal text => simp [expandPieces, expandPart, ih, Part.isActive, ← bind_pure_comp]
      | escaped text => simp [expandPieces, expandPart, ih, Part.isActive, ← bind_pure_comp]
      | expansion name operation raw => simp [expandPieces, ih, Part.isActive, ← bind_pure_comp]

/-- Expanding a word is expanding its parts and joining the texts. -/
theorem expandWord_eq (word : Word) :
    expandWord word = List.flatten <$> word.mapM expandPart := by
  rw [expandWord, expandParts_eq]
  simp

/-- Expanding a word as a pattern is expanding its parts, marked by whether they are quoted. -/
theorem expandPattern_eq (word : Word) :
    expandPattern word =
      word.mapM fun part => (Glob.Piece.mk · part.isActive) <$> expandPart part := by
  rw [expandPattern, expandPieces_eq]
  simp

theorem expandWord_singleton (part : Part) :
    expandWord [part] = expandPart part := by
  simp [expandWord_eq, ← bind_pure_comp, Dialogue.bind_answer]

theorem expandWord_append
    (front rest : Word) :
    expandWord (front ++ rest) = do
      let first ← expandWord front
      let second ← expandWord rest
      return first ++ second := by
  simp [expandWord_eq, List.mapM_append, ← bind_pure_comp]

/-! ## Questions -/

/-- The dialogue asks only at the listed expansions, at most once at each and in that order. -/
inductive AsksAt {Value : Type} : List Part → Dialogue Value → Prop where
  | answer (expansions : List Part) (value : Value) : AsksAt expansions (.answer value)
  | fail (expansions : List Part) (failure : Failure) : AsksAt expansions (.fail failure)
  | ask {name : Name} {operation : Operation (List Part)} {raw : Text} {expansions : List Part}
      {resume : Option Text → Dialogue Value}
      (asks : ∀ reply, AsksAt expansions (resume reply)) :
      AsksAt (.expansion name operation raw :: expansions)
        (.ask name operation.insists resume)
  | skip (part : Part) {expansions : List Part} {dialogue : Dialogue Value}
      (asks : AsksAt expansions dialogue) :
      AsksAt (part :: expansions) dialogue

theorem AsksAt.skip_append
    {Value : Type} {expansions : List Part} {dialogue : Dialogue Value}
    (asks : AsksAt expansions dialogue)
    (front : List Part) :
    AsksAt (front ++ expansions) dialogue := by
  induction front with
  | nil => exact asks
  | cons part front ih => exact AsksAt.skip part ih

theorem AsksAt.bind
    {Value Result : Type} {front rest : List Part} {dialogue : Dialogue Value}
    {next : Value → Dialogue Result}
    (asks : AsksAt front dialogue)
    (nextAsks : ∀ value, AsksAt rest (next value)) :
    AsksAt (front ++ rest) (dialogue >>= next) := by
  induction asks with
  | answer expansions value => exact (nextAsks value).skip_append expansions
  | fail expansions failure => exact AsksAt.fail _ failure
  | ask asks ih => exact AsksAt.ask fun reply => ih reply
  | skip part asks ih => exact AsksAt.skip part ih

theorem AsksAt.map
    {Value Result : Type} {expansions : List Part} {dialogue : Dialogue Value}
    (asks : AsksAt expansions dialogue)
    (change : Value → Result) :
    AsksAt expansions (change <$> dialogue) := by
  rw [← bind_pure_comp]
  simpa using asks.bind fun value => AsksAt.answer [] (change value)

/-- A traversal of a word asks at the expansions of the word if each step does at those of a part. -/
theorem AsksAt.mapM
    {Value : Type} {step : Part → Dialogue Value} {word : Word}
    (asks : ∀ part ∈ word, AsksAt (partExpansions part) (step part)) :
    AsksAt (wordExpansions word) (word.mapM step) := by
  induction word with
  | nil => exact AsksAt.answer _ _
  | cons part rest ih =>
      rw [List.mapM_cons, wordExpansions]
      apply (asks part List.mem_cons_self).bind
      intro value
      exact (ih fun other member => asks other (List.mem_cons_of_mem part member)).map (value :: ·)

/-- A question is asked at an expansion: it has its name, and is mandatory if its operation insists. -/
def IsAskedAt (part : Part) (question : Question) : Prop :=
  ∃ operation raw,
    part = .expansion question.name operation raw ∧
      question.mandatory = operation.insists

/-- The questions of a run are asked at some of the expansions, in order. -/
theorem AsksAt.questions
    {State Value : Type} {expansions : List Part} {dialogue : Dialogue Value}
    (asks : AsksAt expansions dialogue)
    (mode : Mode)
    (source : Source State)
    (state : State) :
    ∃ visited, visited.Sublist expansions ∧
      List.Forall₂ IsAskedAt visited (dialogue.run mode source state).questions := by
  induction asks generalizing state with
  | answer expansions value => exact ⟨[], List.nil_sublist _, List.Forall₂.nil⟩
  | fail expansions failure => exact ⟨[], List.nil_sublist _, List.Forall₂.nil⟩
  | @ask name operation raw expansions resume asks ih =>
      rcases replies : source name state with ⟨reply, left⟩
      have isAsked :
          IsAskedAt (.expansion name operation raw)
            ⟨name, operation.insists, reply.isSet⟩ :=
        ⟨operation, raw, rfl, rfl⟩
      rcases Dialogue.stops_or_goesOn mode ⟨name, operation.insists, reply.isSet⟩ with
        ⟨rfl, unmet⟩ | goesOn
      · rw [Dialogue.run_ask_of_stops replies unmet]
        refine ⟨[.expansion name operation raw], ?_, List.Forall₂.cons isAsked List.Forall₂.nil⟩
        exact List.Sublist.cons_cons _ (List.nil_sublist _)
      · rw [Dialogue.run_ask_of_goesOn replies goesOn]
        rcases ih reply.value? left with ⟨visited, isSublist, others⟩
        refine ⟨.expansion name operation raw :: visited, ?_, List.Forall₂.cons isAsked others⟩
        exact List.Sublist.cons_cons _ isSublist
  | skip part asks ih =>
      rcases ih state with ⟨visited, isSublist, questions⟩
      exact ⟨visited, List.Sublist.cons _ isSublist, questions⟩

theorem AsksAt.exists_isAskedAt
    {State Value : Type} {expansions : List Part} {dialogue : Dialogue Value} {mode : Mode}
    {source : Source State} {state : State} {question : Question}
    (asks : AsksAt expansions dialogue)
    (asked : question ∈ (dialogue.run mode source state).questions) :
    ∃ part ∈ expansions, IsAskedAt part question := by
  rcases asks.questions mode source state with ⟨visited, isSublist, askedAt⟩
  rcases List.mem_iff_get.mp asked with ⟨⟨index, inside⟩, rfl⟩
  have isVisited : index < visited.length := by
    rwa [askedAt.length_eq]
  exact ⟨_, isSublist.subset (List.get_mem visited ⟨index, isVisited⟩), askedAt.get isVisited inside⟩

/-! ## Failures -/

/-- One of the expansions may give the failure. -/
def IsRaisedIn (expansions : List Part) (failure : Failure) : Prop :=
  ∃ part ∈ expansions, part.Raises failure

theorem eq_negativeLength_of_substring
    {value : Text} {offset : Int} {length? : Option Int} {fault : Fault}
    (failed : substring value offset length? = .error fault) :
    ∃ length < 0, length? = some length ∧ fault = .negativeLength length := by
  unfold substring at failed
  split at failed
  · cases failed
  · split at failed
    · cases failed
    · rename_i length
      split at failed
      · rename_i negative
        dsimp only at failed
        split at failed
        · cases failed
          exact ⟨length, negative, rfl, rfl⟩
        · cases failed
      · cases failed

/-! ## Induction over the tree -/

/--
What is known of the dialogues of a word: they ask at its expansions and fail as these do, expanded
as a word or as a pattern.
-/
structure IsConfined (word : Word) : Prop where
  asks : AsksAt (wordExpansions word) (expandWord word)
  patternAsks : AsksAt (wordExpansions word) (expandPattern word)
  fails : (expandWord word).FailsOnly (IsRaisedIn (wordExpansions word))
  patternFails : (expandPattern word).FailsOnly (IsRaisedIn (wordExpansions word))

theorem IsConfined.of_parts
    {word : Word}
    (asks : ∀ part ∈ word, AsksAt (partExpansions part) (expandPart part))
    (fails : ∀ part ∈ word, (expandPart part).FailsOnly (IsRaisedIn (partExpansions part))) :
    IsConfined word := by
  have failsWord :
      ∀ part ∈ word, (expandPart part).FailsOnly (IsRaisedIn (wordExpansions word)) := by
    intro part member
    apply (fails part member).mono
    rintro failure ⟨expansion, isExpansion, raises⟩
    exact ⟨expansion, partExpansions_subset_of_mem member isExpansion, raises⟩
  constructor
  · rw [expandWord_eq]
    exact (AsksAt.mapM asks).map List.flatten
  · rw [expandPattern_eq]
    exact AsksAt.mapM fun part member => (asks part member).map _
  · rw [expandWord_eq]
    exact (Dialogue.FailsOnly.mapM failsWord).map List.flatten
  · rw [expandPattern_eq]
    exact Dialogue.FailsOnly.mapM fun part member => (failsWord part member).map _

/-- An expansion asks for its own parameter first and then expands words that are confined. -/
theorem asksAt_expandOperation
    {operation : Operation (List Part)}
    (confined : ∀ word ∈ operation.words, IsConfined word)
    (name : Name)
    (raw : Text) :
    AsksAt (.expansion name operation raw :: operationExpansions operation)
      (expandOperation name raw operation) := by
  cases operation with
  | value => exact AsksAt.ask fun reply => AsksAt.answer _ _
  | length => exact AsksAt.ask fun reply => AsksAt.answer _ _
  | changeCase target everywhere => exact AsksAt.ask fun reply => AsksAt.answer _ _
  | substring offset length? =>
      refine AsksAt.ask fun reply => ?_
      cases substring (reply.getD []) offset length? with
      | ok text => exact AsksAt.answer _ _
      | error fault => exact AsksAt.fail _ _
  | fallback colon sign word =>
      refine AsksAt.ask fun reply => ?_
      cases reply with
      | some value => exact AsksAt.answer _ _
      | none => exact (confined word (List.mem_singleton_self _)).asks
  | alternative colon word =>
      refine AsksAt.ask fun reply => ?_
      cases reply with
      | some value => exact (confined word (List.mem_singleton_self _)).asks
      | none => exact AsksAt.answer _ _
  | orFail colon =>
      refine AsksAt.ask fun reply => ?_
      cases reply with
      | some value => exact AsksAt.answer _ _
      | none => exact AsksAt.fail _ _
  | orFailWith colon message =>
      refine AsksAt.ask fun reply => ?_
      cases reply with
      | some value => exact AsksAt.answer _ _
      | none =>
          have asks := (confined message (List.mem_singleton_self _)).asks
          have fails (detail : Text) :
              AsksAt [] (Dialogue.fail (.parameterUnset name detail) : Dialogue Text) :=
            AsksAt.fail _ _
          rw [operationExpansions, ← List.append_nil (wordExpansions message)]
          exact asks.bind fails
  | remove side longest pattern =>
      refine AsksAt.ask fun reply => ?_
      have asks := (confined pattern (List.mem_singleton_self _)).patternAsks
      exact asks.map fun pieces => Glob.remove side longest (Glob.compile pieces) (reply.getD [])
  | replace scope pattern replacement =>
      refine AsksAt.ask fun reply => ?_
      have patternAsks := (confined pattern (by simp [Operation.words])).asks
      have replacementAsks := (confined replacement (by simp [Operation.words])).asks
      apply patternAsks.bind
      intro expanded
      exact replacementAsks.map fun other => replace scope expanded other (reply.getD [])

theorem IsRaisedIn.own
    {part : Part} {failure : Failure}
    (raises : part.Raises failure)
    (expansions : List Part) :
    IsRaisedIn (part :: expansions) failure := by
  exact ⟨part, List.mem_cons_self, raises⟩

theorem IsConfined.fails_of_mem
    {word : Word} {operation : Operation (List Part)}
    (confined : IsConfined word)
    (member : word ∈ operation.words)
    (name : Name)
    (raw : Text) :
    (expandWord word).FailsOnly
        (IsRaisedIn (.expansion name operation raw :: operationExpansions operation)) ∧
      (expandPattern word).FailsOnly
        (IsRaisedIn (.expansion name operation raw :: operationExpansions operation)) := by
  have weaken : ∀ failure, IsRaisedIn (wordExpansions word) failure →
      IsRaisedIn (.expansion name operation raw :: operationExpansions operation) failure := by
    rintro failure ⟨part, isPart, raises⟩
    have isInner := wordExpansions_subset_operationExpansions member isPart
    exact ⟨part, List.mem_cons_of_mem _ isInner, raises⟩
  exact ⟨confined.fails.mono weaken, confined.patternFails.mono weaken⟩

/-- An expansion fails by itself or as one of its words does. -/
theorem failsOnly_expandOperation
    {operation : Operation (List Part)}
    (confined : ∀ word ∈ operation.words, IsConfined word)
    (name : Name)
    (raw : Text) :
    (expandOperation name raw operation).FailsOnly
      (IsRaisedIn (.expansion name operation raw :: operationExpansions operation)) := by
  have wordFails := fun word member => (confined word member).fails_of_mem member name raw
  cases operation with
  | value | length | changeCase => exact fun reply => True.intro
  | substring offset length? =>
      intro reply
      cases failed : substring (reply.getD []) offset length? with
      | ok text => simp [failed, Dialogue.FailsOnly]
      | error fault =>
          rcases eq_negativeLength_of_substring failed with ⟨length, negative, rfl, rfl⟩
          simp only [failed, Dialogue.FailsOnly]
          exact IsRaisedIn.own (.substring name offset raw negative) _
  | fallback colon sign word =>
      intro reply
      cases reply with
      | some value => exact True.intro
      | none => exact (wordFails word (List.mem_singleton_self _)).1
  | alternative colon word =>
      intro reply
      cases reply with
      | some value => exact (wordFails word (List.mem_singleton_self _)).1
      | none => exact True.intro
  | orFail colon =>
      intro reply
      cases reply with
      | some value => exact True.intro
      | none => exact IsRaisedIn.own (.orFail name colon raw) _
  | orFailWith colon message =>
      intro reply
      cases reply with
      | some value => exact True.intro
      | none =>
          apply (wordFails message (List.mem_singleton_self _)).1.bind
          intro detail
          exact IsRaisedIn.own (.orFailWith name colon message raw detail) _
  | remove side longest pattern =>
      intro reply
      exact (wordFails pattern (List.mem_singleton_self _)).2.map
        fun pieces => Glob.remove side longest (Glob.compile pieces) (reply.getD [])
  | replace scope pattern replacement =>
      intro reply
      apply (wordFails pattern (by simp [Operation.words])).1.bind
      intro expanded
      exact (wordFails replacement (by simp [Operation.words])).1.map
        fun other => replace scope expanded other (reply.getD [])

/-- The dialogues of every word are confined to its expansions. -/
theorem isConfined (word : Word) :
    IsConfined word := by
  induction word using word_induction with
  | step word ih =>
  apply IsConfined.of_parts
  · intro part member
    cases part with
    | literal text => exact AsksAt.answer _ _
    | escaped text => exact AsksAt.answer _ _
    | expansion name operation raw =>
        exact asksAt_expandOperation (ih name operation raw member) name raw
  · intro part member
    cases part with
    | literal text => exact True.intro
    | escaped text => exact True.intro
    | expansion name operation raw =>
        exact failsOnly_expandOperation (ih name operation raw member) name raw

end ParameterExpansion.Expansion
