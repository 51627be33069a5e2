import ParameterExpansion.Failure

/-!
# Dialogues with a source of variables

Expanding a template is a dialogue: it asks for variables one after the other, and what it does next
depends on the answers.  A dialogue says nothing about where the answers come from, so one dialogue
serves every source, stateful ones included, and what holds of the order of its questions holds for
all of them.
-/

namespace ParameterExpansion.Expansion

/--
A computation that may ask for variables.  It ends with a value or a failure, or it asks for a
variable and goes on with the answer, which is `none` for a variable that is not set.  A question is
mandatory if strict expansion does not accept `none`.
-/
inductive Dialogue (Value : Type) where
  | answer (value : Value)
  | fail (failure : Failure)
  | ask (name : Name) (mandatory : Bool) (resume : Option Text → Dialogue Value)

namespace Dialogue

/-- Go on with the value of a dialogue. -/
def bind {Value Result : Type} (dialogue : Dialogue Value) (next : Value → Dialogue Result) :
    Dialogue Result :=
  match dialogue with
  | answer value => next value
  | fail failure => fail failure
  | ask name mandatory resume => ask name mandatory fun reply => (resume reply).bind next

instance : Monad Dialogue where
  pure := answer
  bind := bind

@[simp]
theorem pure_eq {Value : Type} (value : Value) :
    (pure value : Dialogue Value) = answer value :=
  rfl

@[simp]
theorem answer_bind
    {Value Result : Type}
    (value : Value)
    (next : Value → Dialogue Result) :
    (answer value >>= next) = next value :=
  rfl

@[simp]
theorem fail_bind
    {Value Result : Type}
    (failure : Failure)
    (next : Value → Dialogue Result) :
    (fail failure >>= next) = fail failure :=
  rfl

@[simp]
theorem ask_bind
    {Value Result : Type}
    (name : Name)
    (mandatory : Bool)
    (resume : Option Text → Dialogue Value)
    (next : Value → Dialogue Result) :
    (ask name mandatory resume >>= next) =
      ask name mandatory fun reply => resume reply >>= next :=
  rfl

/-- Answering with the value changes nothing. -/
theorem bind_answer {Value : Type} (dialogue : Dialogue Value) :
    (dialogue >>= answer) = dialogue := by
  induction dialogue with
  | answer => rfl
  | fail => rfl
  | ask name mandatory resume ih => simp [ih]

/-- Going on twice is going on with both steps. -/
theorem bind_bind
    {First Second Third : Type}
    (dialogue : Dialogue First)
    (next : First → Dialogue Second)
    (last : Second → Dialogue Third) :
    (dialogue >>= next >>= last) = dialogue >>= fun value => next value >>= last := by
  induction dialogue with
  | answer => rfl
  | fail => rfl
  | ask name mandatory resume ih => simp [ih]

instance : LawfulMonad Dialogue :=
  LawfulMonad.mk'
    Dialogue
    bind_answer
    (fun _ _ => rfl)
    bind_bind

/-- Ask for a variable. -/
def inquire (name : Name) (mandatory : Bool) : Dialogue (Option Text) :=
  ask name mandatory answer

end Dialogue

end ParameterExpansion.Expansion
