import ParameterExpansion.Proofs.Expansion.Running
import ParameterExpansion.Template

/-!
# Only the answers asked for count

A run learns about its source by asking, and of a variable that is not set it learns nothing else.
So a source without a state may be replaced by another one that says the same about the variables
that the run asks for: the run asks the same questions and ends in the same way.  What the two
sources say about other variables does not matter, nor does the text with which they reply about a
variable that is not set.
-/

namespace ParameterExpansion.Expansion

open Template

/--
Two replies say the same: that the variable is not set, or that it is set to the same text.  The text
that comes with a variable that is not set says nothing.
-/
def Reply.SaysSame (reply reply' : Reply) : Prop :=
  reply.isSet = reply'.isSet ∧ (reply.isSet = true → reply.text = reply'.text)

theorem Reply.SaysSame.value?_eq
    {reply reply' : Reply}
    (same : reply.SaysSame reply') :
    reply.value? = reply'.value? := by
  rcases same with ⟨isSet, text⟩
  unfold value?
  rw [← isSet]
  split
  · rename_i present
    rw [text present]
  · rfl

/-- A question comes first among those asked, whether it stops the run or not. -/
theorem Dialogue.mem_asked_run_ask
    {State Value : Type}
    (mode : Mode)
    (source : Source State)
    (name : Name)
    (mandatory : Bool)
    (resume : Option Text → Dialogue Value)
    (state : State) :
    name ∈ ((ask name mandatory resume).run mode source state).asked := by
  rcases replies : source name state with ⟨reply, left⟩
  rcases stops_or_goesOn mode ⟨name, mandatory, reply.isSet⟩ with ⟨rfl, unmet⟩ | goesOn
  · rw [run_ask_of_stops replies unmet]
    exact List.mem_cons_self
  · rw [run_ask_of_goesOn replies goesOn]
    exact List.mem_cons_self

/-- Two sources that say the same about what one run asks for lead a dialogue through that run. -/
theorem Dialogue.run_stateless_of_saysSame
    {State Value : Type} {mode : Mode} {replies replies' : Name → Reply}
    {dialogue : Dialogue Value} {state : State}
    (same : ∀ name ∈ (dialogue.run mode (.stateless replies) state).asked,
      (replies name).SaysSame (replies' name)) :
    dialogue.run mode (.stateless replies') state =
      dialogue.run mode (.stateless replies) state := by
  induction dialogue with
  | answer value => rfl
  | fail failure => rfl
  | ask name mandatory resume ih =>
      have replied (replies : Name → Reply) :
          (Source.stateless replies : Source State) name state = (replies name, state) := rfl
      have sameFirst := same name (mem_asked_run_ask mode _ name mandatory resume state)
      rcases stops_or_goesOn mode ⟨name, mandatory, (replies name).isSet⟩ with
        ⟨rfl, unmet⟩ | goesOn
      · rw [run_ask_of_stops (replied replies) unmet,
          run_ask_of_stops (replied replies') (sameFirst.1 ▸ unmet), sameFirst.1]
      · rw [run_ask_of_goesOn (replied replies) goesOn] at same ⊢
        rw [run_ask_of_goesOn (replied replies') (sameFirst.1 ▸ goesOn), ← sameFirst.1,
          ← sameFirst.value?_eq]
        -- The rest of the run asks for the variables behind the first, so it is the same.
        have rest := ih (replies name).value? fun other member =>
          same other (List.mem_cons_of_mem name member)
        rw [rest]

/--
The result of expanding a template depends on the answers asked for and on nothing else.  If two
sources without a state say the same about every variable that is asked for in the run with the
first, then the run with the second asks for the same variables in the same order and has the same
outcome: the same text, or the same failure.
-/
theorem expand_stateless_of_saysSame
    {State : Type}
    (template : Template)
    (mode : Mode)
    (replies replies' : Name → Reply)
    (state : State)
    (same : ∀ name ∈ (template.expand mode (.stateless replies) state).asked,
      (replies name).SaysSame (replies' name)) :
    let run := template.expand mode (.stateless replies) state
    let run' := template.expand mode (.stateless replies') state
    run'.asked = run.asked ∧ run'.outcome = run.outcome := by
  intro run run'
  have sameRun : run' = run := Dialogue.run_stateless_of_saysSame same
  rw [sameRun]
  exact ⟨rfl, rfl⟩

/--
In `${a:-${b}}${a+${d}}${c?${b}}` with only the second variable set, neither the texts that come with
the others nor the one that is not asked for reach the failure.
-/
theorem expand_stateless_of_saysSame_besides :
    let value (name : Name) : Part := .expansion name .value (enclose name)
    let first := enclose (['a', ':', '-'] ++ enclose ['b'])
    let second := enclose (['a', '+'] ++ enclose ['d'])
    let third := enclose (['c', '?'] ++ enclose ['b'])
    let template : Template :=
      ⟨first ++ second ++ third, [
        .expansion ['a'] (.fallback true .minus [value ['b']]) first,
        .expansion ['a'] (.alternative false [value ['d']]) second,
        .expansion ['c'] (.orFailWith false [value ['b']]) third]⟩
    let replies (name : Name) : Reply := ⟨['1'], name == ['b']⟩
    let replies' (name : Name) : Reply :=
      if name = ['b'] then ⟨['1'], true⟩ else ⟨['2'], name == ['d']⟩
    let run := template.expand .strict (.stateless replies) ()
    let run' := template.expand .strict (.stateless replies') ()
    run'.asked = run.asked ∧ run'.outcome = run.outcome ∧
      run.outcome = .error (.parameterUnset ['c'] ['1']) := by
  intro value first second third template replies replies' run run'
  have same : ∀ name ∈ run.asked, (replies name).SaysSame (replies' name) := by
    have asked : run.asked = [['a'], ['b'], ['a'], ['c'], ['b']] := rfl
    rw [asked]
    simp [replies, replies', Reply.SaysSame]
  rcases expand_stateless_of_saysSame template .strict replies replies' () same with
    ⟨asked, outcome⟩
  exact ⟨asked, outcome, rfl⟩

end ParameterExpansion.Expansion
