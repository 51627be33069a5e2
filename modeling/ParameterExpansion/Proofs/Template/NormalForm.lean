import Mathlib.Data.List.Chain
import ParameterExpansion.Proofs.Template.Digits
import ParameterExpansion.Proofs.Template.Parsing
import ParameterExpansion.Proofs.Template.Tree
import ParameterExpansion.Template.Body

/-!
# Normal forms of words

A word in normal form is one that text can be read as.  Literal text is never empty and never beside
other literal text, and what it may hold depends on where the word stands: in a word of an operation
there is no bare backslash and no bare closing brace, and in the pattern of a replacement no slash
either.  Quoted characters occur in the words of operations only.  An operation must not begin its
word with a character that would make its operator a longer one, and what may not be empty is not.
That a replacement of every occurrence is never bound to the start or the end of the value needs no
condition, because a `Scope` is one or the other.
-/

namespace ParameterExpansion.Template

/-- Where a word stands: on its own, in an operation, or in a replacement as its pattern. -/
inductive Place where
  | top
  | inner
  | pattern
  deriving DecidableEq, Repr

/-- Backslashes quote in every word of an operation. -/
def Place.quotes : Place → Bool
  | .top => false
  | .inner | .pattern => true

/-- The characters that literal text may hold. -/
def Place.Allows : Place → Char → Prop
  | .top, _ => True
  | .inner, c => c ≠ '\\' ∧ c ≠ '}'
  | .pattern, c => c ≠ '\\' ∧ c ≠ '}' ∧ c ≠ '/'

instance (place : Place) (c : Char) : Decidable (place.Allows c) :=
  match place with
  | .top => inferInstanceAs (Decidable True)
  | .inner => inferInstanceAs (Decidable (_ ∧ _))
  | .pattern => inferInstanceAs (Decidable (_ ∧ _))

/-- Names start with a letter of ASCII or an underscore and go on with these and digits. -/
def IsName : Name → Prop
  | [] => False
  | first :: rest => startsName first = true ∧ rest.all continuesName = true

instance : DecidablePred IsName
  | [] => inferInstanceAs (Decidable False)
  | _ :: _ => inferInstanceAs (Decidable (_ ∧ _))

/-! ## Operators and the words behind them -/

/-- A list begins with an item that starts with a character. -/
def StartsWith {Item : Type} (starts : Char → Item → Bool) (c : Char) (word : List Item) : Prop :=
  word.head?.any (starts c) = true

/-- The sign of a removal, which is doubled for the longest match. -/
def sideSign : Glob.Side → Char
  | .leading => '#'
  | .trailing => '%'

/--
The operation, written down with its words, is not taken for another one: a message is not empty, a
word does not lengthen the operator in front of it, and numbers are not too long to be read.
-/
def Operation.IsDistinct {Item : Type} (starts : Char → Item → Bool) :
    Operation (List Item) → Prop
  | .value | .length | .changeCase _ _ | .fallback _ _ _ | .alternative _ _ | .orFail _ => True
  | .substring offset length? => IsReadable offset ∧ ∀ length ∈ length?, IsReadable length
  | .orFailWith _ message => message ≠ []
  | .remove side longest pattern =>
      longest = false → ¬ StartsWith starts (sideSign side) pattern
  | .replace scope pattern replacement =>
      scope = .first →
        ¬ StartsWith starts '#' pattern ∧ ¬ StartsWith starts '%' pattern ∧
          (pattern = [] → replacement = [])

/-- The part is literal text that starts with a character. -/
def Part.startsWith (c : Char) : Part → Bool
  | .literal (first :: _) => first == c
  | _ => false

/-- The part is literal text. -/
def Part.isLiteral : Part → Bool
  | .literal _ => true
  | _ => false

/-! ## Normal words -/

mutual

/-- The part is in normal form at a place. -/
def NormalPart (place : Place) : Part → Prop
  | .literal text => text ≠ [] ∧ ∀ c ∈ text, place.Allows c
  | .escaped text => place.quotes = true ∧ text.length = 1
  | .expansion name operation _ =>
      IsName name ∧ operation.IsDistinct Part.startsWith ∧ NormalOperation operation

/-- The words of the operation are in normal form where they stand. -/
def NormalOperation : Operation (List Part) → Prop
  | .value | .length | .changeCase _ _ | .substring _ _ | .orFail _ => True
  | .fallback _ _ word => NormalWord .inner word
  | .alternative _ word => NormalWord .inner word
  | .orFailWith _ message => NormalWord .inner message
  | .remove _ _ pattern => NormalWord .inner pattern
  | .replace _ pattern replacement =>
      NormalWord .pattern pattern ∧ NormalWord .inner replacement

/-- The parts of the word are in normal form, and no two neighbours are literal text. -/
def NormalWord (place : Place) : List Part → Prop
  | [] => True
  | part :: rest =>
      NormalPart place part ∧
        (∀ next ∈ rest.head?, (part.isLiteral && next.isLiteral) = false) ∧
        NormalWord place rest

end

/-- The parts are in normal form one by one, and literal text is beside no other. -/
theorem normalWord_iff
    (place : Place)
    (word : List Part) :
    NormalWord place word ↔
      (∀ part ∈ word, NormalPart place part) ∧
        (word.map Part.isLiteral).IsChain fun left right => (left && right) = false := by
  rw [List.isChain_map]
  induction word with
  | nil => simp [NormalWord]
  | cons part rest ih =>
      rw [NormalWord, ih, List.isChain_cons, List.forall_mem_cons]
      constructor
      · rintro ⟨normal, apart, normals, chain⟩
        exact ⟨⟨normal, normals⟩, apart, chain⟩
      · rintro ⟨⟨normal, normals⟩, apart, chain⟩
        exact ⟨normal, apart, normals, chain⟩

/-- Each word of an operation has a property at the place where it stands. -/
def Operation.EachWord {Word : Type} (holds : Place → Word → Prop) : Operation Word → Prop
  | .replace _ pattern replacement => holds .pattern pattern ∧ holds .inner replacement
  | operation => ∀ word ∈ operation.words, holds .inner word

theorem normalOperation_iff (operation : Operation (List Part)) :
    NormalOperation operation ↔ operation.EachWord NormalWord := by
  cases operation with
  | replace scope pattern replacement => exact Iff.rfl
  | value | length | changeCase | substring | orFail =>
      simp [NormalOperation, Operation.EachWord, Operation.words]
  | fallback | alternative | orFailWith | remove =>
      simp [NormalOperation, Operation.EachWord, Operation.words]

/-- Every word of an operation has the property at one of the places where backslashes quote. -/
theorem Operation.EachWord.exists_of_mem
    {Word : Type} {holds : Place → Word → Prop} {operation : Operation Word} {word : Word}
    (each : operation.EachWord holds)
    (member : word ∈ operation.words) :
    ∃ place, place.quotes = true ∧ holds place word := by
  cases operation with
  | value | length | changeCase | substring | orFail => simp [Operation.words] at member
  | fallback | alternative | orFailWith | remove => exact ⟨.inner, rfl, each word member⟩
  | replace scope pattern replacement =>
      rcases Operation.mem_words_replace_iff.mp member with rfl | rfl
      · exact ⟨.pattern, rfl, each.1⟩
      · exact ⟨.inner, rfl, each.2⟩

/-! ## Operations on related words -/

/-- An operation stays distinct on words that are empty together and start with no more. -/
theorem Operation.IsDistinct.of_related
    {Source Target : Type} {relation : List Source → List Target → Prop}
    {starts : Char → Source → Bool} {starts' : Char → Target → Bool}
    {operation : Operation (List Source)} {operation' : Operation (List Target)}
    (distinct : operation.IsDistinct starts)
    (related : Operation.Related relation operation operation')
    (empty : ∀ word word', relation word word' → (word' = [] ↔ word = []))
    (begins : ∀ c, c = '#' ∨ c = '%' → ∀ word word', relation word word' →
      StartsWith starts' c word' → StartsWith starts c word) :
    operation'.IsDistinct starts' := by
  cases related with
  | value | length | changeCase | substring | orFail => exact distinct
  | fallback | alternative => exact True.intro
  | orFailWith colon related => exact fun isEmpty => distinct ((empty _ _ related).mp isEmpty)
  | remove side longest related =>
      intro shortest starting
      apply distinct shortest
      cases side with
      | leading => exact begins '#' (Or.inl rfl) _ _ related starting
      | trailing => exact begins '%' (Or.inr rfl) _ _ related starting
  | replace scope patterns replacements =>
      intro first
      rcases distinct first with ⟨notStart, notEnd, emptyPattern⟩
      refine ⟨?_, ?_, ?_⟩
      · exact fun starting => notStart (begins '#' (Or.inl rfl) _ _ patterns starting)
      · exact fun starting => notEnd (begins '%' (Or.inr rfl) _ _ patterns starting)
      · intro isEmpty
        apply (empty _ _ replacements).mpr
        exact emptyPattern ((empty _ _ patterns).mp isEmpty)

/-- What each word has, the related words have if the relation carries it over. -/
theorem Operation.EachWord.of_related
    {Source Target : Type} {relation : Source → Target → Prop}
    {holds : Place → Source → Prop} {holds' : Place → Target → Prop}
    {operation : Operation Source} {operation' : Operation Target}
    (each : operation.EachWord holds)
    (related : Operation.Related relation operation operation')
    (carry : ∀ place, place.quotes = true → ∀ word, ∀ word' ∈ operation'.words,
      relation word word' → holds place word → holds' place word') :
    operation'.EachWord holds' := by
  cases related with
  | value | length | changeCase | substring | orFail =>
      simp [Operation.EachWord, Operation.words]
  | fallback | alternative | orFailWith | remove =>
      rename_i related
      intro word' member
      rcases List.mem_singleton.mp member with rfl
      exact carry .inner rfl _ _ member related (each _ (List.mem_singleton_self _))
  | replace scope patterns replacements =>
      refine ⟨?_, ?_⟩
      · exact carry .pattern rfl _ _ (by simp [Operation.words]) patterns each.1
      · exact carry .inner rfl _ _ (by simp [Operation.words]) replacements each.2

end ParameterExpansion.Template
