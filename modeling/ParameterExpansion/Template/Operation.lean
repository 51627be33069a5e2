import ParameterExpansion.Glob.Match
import ParameterExpansion.Text.Basic

/-!
# Operations on a parameter

An expansion applies one operation to the value of its parameter.  The words that an operation
carries are of any type: they are plain text while a body is read, and trees once they are parsed
themselves.
-/

namespace ParameterExpansion.Template

/-- The case that letters are changed to. -/
inductive LetterCase where
  | upper
  | lower
  deriving DecidableEq, Repr

/-- How the sign of a default is written.  Both only substitute the default; nothing is assigned. -/
inductive DefaultSign where
  | minus
  | equals
  deriving DecidableEq, Repr

/-- Which occurrences of a pattern are replaced. -/
inductive Scope where
  | first
  | all
  | atStart
  | atEnd
  deriving DecidableEq, Repr

/-- The scope of an end, where the mark for all is idle, or of all occurrences or the first one. -/
def Scope.ofFlags (everywhere : Bool) : Option Glob.Side → Scope
  | some .leading => .atStart
  | some .trailing => .atEnd
  | none => if everywhere then .all else .first

/--
What is done with the value of a parameter.  The operators on presence may be written with a colon
in front, which does not change their meaning.
-/
inductive Operation (Word : Type) where
  | value
  | length
  | changeCase (target : LetterCase) (everywhere : Bool)
  | substring (offset : Int) (length : Option Int)
  | fallback (colon : Bool) (sign : DefaultSign) (word : Word)
  | alternative (colon : Bool) (word : Word)
  | orFail (colon : Bool)
  | orFailWith (colon : Bool) (message : Word)
  | remove (side : Glob.Side) (longest : Bool) (pattern : Word)
  | replace (scope : Scope) (pattern replacement : Word)
  deriving DecidableEq, Repr

namespace Operation

/-- The words of an operation, in the order in which they are read and expanded. -/
def words {Word : Type} : Operation Word → List Word
  | value | length | changeCase _ _ | substring _ _ | orFail _ => []
  | fallback _ _ word | alternative _ word | orFailWith _ word | remove _ _ word => [word]
  | replace _ pattern replacement => [pattern, replacement]

/-- Apply a step that may fail to every word, in order. -/
def traverse {Error Word Target : Type} (step : Word → Except Error Target) :
    Operation Word → Except Error (Operation Target)
  | value => return value
  | length => return length
  | changeCase target everywhere => return changeCase target everywhere
  | substring offset count => return substring offset count
  | fallback colon sign word => return fallback colon sign (← step word)
  | alternative colon word => return alternative colon (← step word)
  | orFail colon => return orFail colon
  | orFailWith colon message => return orFailWith colon (← step message)
  | remove side longest pattern => return remove side longest (← step pattern)
  | replace scope pattern replacement => do
    let pattern ← step pattern
    let replacement ← step replacement
    return replace scope pattern replacement

/-- An operation whose words remember that they are its words. -/
def attachWords {Word : Type} :
    (operation : Operation Word) → Operation { word // word ∈ operation.words }
  | value => value
  | length => length
  | changeCase target everywhere => changeCase target everywhere
  | substring offset count => substring offset count
  | fallback colon sign word => fallback colon sign ⟨word, by simp [words]⟩
  | alternative colon word => alternative colon ⟨word, by simp [words]⟩
  | orFail colon => orFail colon
  | orFailWith colon message => orFailWith colon ⟨message, by simp [words]⟩
  | remove side longest pattern => remove side longest ⟨pattern, by simp [words]⟩
  | replace scope pattern replacement =>
    replace scope ⟨pattern, by simp [words]⟩ ⟨replacement, by simp [words]⟩

/-- A step that does not use what the words remember may as well be applied to the words. -/
@[simp]
theorem traverse_attachWords
    {Error Word Target : Type}
    (step : Word → Except Error Target)
    (operation : Operation Word) :
    (operation.attachWords.traverse fun word => step word.val) = operation.traverse step := by
  cases operation <;> rfl

end Operation

end ParameterExpansion.Template
