import ParameterExpansion.Expansion.Evaluate
import ParameterExpansion.Expansion.Program
import ParameterExpansion.Store
import ParameterExpansion.Template.Parse
import ParameterExpansion.Text.Quoted

/-!
# Templates

A template is parsed once and may then be expanded any number of times, against any source of
variables.  Parsing and expanding in one go gives either the whole result or a failure.  A program
expands in the same way, looking variables up as they are asked for.
-/

namespace ParameterExpansion

open Expansion

/-- A parsed template, with the text it was parsed from. -/
structure Template where
  source : Text
  word : Template.Word

/-- The source that replies with stored variables. -/
def Store.asSource {State : Type} (bindings : Variables) : Source State :=
  .stateless fun name => .ofValue? (bindings.get? name)

@[simp]
theorem Store.value?_asSource
    {State : Type}
    (bindings : Variables)
    (name : Name)
    (state : State) :
    (bindings.asSource name state).1.value? = bindings.get? name := by
  simp [asSource, Source.stateless]

@[simp]
theorem Store.isSet_asSource
    {State : Type}
    (bindings : Variables)
    (name : Name)
    (state : State) :
    (bindings.asSource name state).1.isSet = (bindings.get? name).isSome := by
  simp [asSource, Source.stateless]

namespace Template

/-- Parse a whole text as a word, if it is not too long. -/
def parseText (limits : Limits) (text : Text) : Except Failure Word :=
  if limits.size < text.length then
    .error (.ofExcess (.size text.length limits.size))
  else parseWord limits false 0 text

/-- Parse a template. -/
def parse (limits : Limits) (text : Text) : Except Failure Template :=
  (parseText limits text).map fun word => ⟨text, word⟩

/-- Expand a template against a source of variables. -/
def expand {State : Type} (template : Template) (mode : Mode) (source : Source State)
    (state : State) : Run State Text :=
  (expandWord template.word).run mode source state

/-- A template as shown in diagnostics. -/
def shown (template : Template) : Text :=
  "Template(".toList ++ Text.Quoted.encode template.source ++ [')']

end Template

/-- Parse a text and expand it.  A text that cannot be parsed asks for nothing. -/
def expand {State : Type} (limits : Limits) (mode : Mode) (source : Source State) (text : Text)
    (state : State) : Run State Text :=
  match Template.parse limits text with
  | .error failure => ⟨.error failure, [], state⟩
  | .ok template => template.expand mode source state

/-- Parse a text and expand it with stored variables. -/
def expandWith (limits : Limits) (mode : Mode) (bindings : Variables) (text : Text) :
    Except Failure Text :=
  (expand limits mode bindings.asSource text ()).outcome

/-- Parse a text and expand it in a program that looks variables up. -/
def expandIn {m : Type → Type} [Monad m] (limits : Limits) (mode : Mode)
    (lookUp : Name → m (Option Text)) (text : Text) : m (Except Failure Text) :=
  match Template.parse limits text with
  | .error failure => return .error failure
  | .ok template => (expandWord template.word).runIn mode lookUp

/-- A program that looks variables up in a store expands with it. -/
theorem expandIn_pure
    {m : Type → Type} [Monad m] [LawfulMonad m]
    (limits : Limits)
    (mode : Mode)
    (bindings : Variables)
    (text : Text) :
    expandIn limits mode (fun name => (pure (bindings.get? name) : m (Option Text))) text =
      pure (expandWith limits mode bindings text) := by
  rw [expandIn, expandWith, expand]
  cases Template.parse limits text with
  | error failure => rfl
  | ok template => exact Dialogue.runIn_pure mode bindings.get? (expandWord template.word)

end ParameterExpansion
