import ParameterExpansion.Proofs.Expansion.WrittenExpansion
import ParameterExpansion.Session

/-!
# Expanders in a session

Requests change the variables of a session only where they set or unset one, and they change an
expander only where they use it or make another in its place.  Using an expander changes nothing but
the state of a resolver of its own.  So an expander that copied its variables answers, after any
requests, as it did when it was made, and one that resolves through a mapping answers as the mapping
is at that moment.
-/

namespace ParameterExpansion

/-- The supply is no resolver with a state of its own. -/
def Supply.IsStateless {State : Type} : Supply State → Prop
  | .snapshot _ | .live _ => True
  | .resolver _ _ => False

/-- The variables that a supply without a state stands for in a session. -/
def Supply.variables {State : Type} (session : Session State) : Supply State → Variables
  | .snapshot bindings => bindings
  | .live mapping => session.mapping mapping
  | .resolver _ _ => {}

/-- The variables that a caller gives, as they are in a session. -/
def Given.variables {State : Type} (session : Session State) : Given → Variables
  | .bindings values => values
  | .mapping name => session.mapping name

namespace Session

open Expansion

variable {State : Type}

/-! ## Variables -/

/-- The request sets or unsets a variable. -/
def Request.changesVariables : Request State → Bool
  | .setVariable _ _ | .unsetVariable _ | .setMapping _ _ _ | .unsetMapping _ _ => true
  | _ => false

/-- Two sessions have the same variables. -/
def SameVariables (session other : Session State) : Prop :=
  session.environment = other.environment ∧ session.mappings = other.mappings

/-- A request that sets and unsets nothing leaves the variables alone, whether it fails or not. -/
theorem sameVariables_answer
    {request : Request State}
    (reads : request.changesVariables = false)
    (session : Session State) :
    SameVariables (session.answer request).2 session := by
  cases request with
  | setVariable name value => cases reads
  | unsetVariable name => cases reads
  | setMapping mapping name value => cases reads
  | unsetMapping mapping name => cases reads
  | lookUp mapping name => exact ⟨rfl, rfl⟩
  | create expander recipe => exact ⟨rfl, rfl⟩
  | expandEnvironment mapping? mode text => exact ⟨rfl, rfl⟩
  | expand expander text =>
      rw [answer]
      split <;> exact ⟨rfl, rfl⟩
  | parse template expander? limits text =>
      rw [answer]
      split <;> exact ⟨rfl, rfl⟩
  | execute template supply mode =>
      rw [answer]
      split <;> exact ⟨rfl, rfl⟩
  | «show» template =>
      rw [answer]
      split <;> exact ⟨rfl, rfl⟩

theorem sameVariables_answerAll
    {requests : List (Request State)}
    (reads : ∀ request ∈ requests, request.changesVariables = false)
    (session : Session State) :
    SameVariables (session.answerAll requests).2 session := by
  induction requests generalizing session with
  | nil => exact ⟨rfl, rfl⟩
  | cons request requests ih =>
      rw [List.forall_mem_cons] at reads
      have first := sameVariables_answer reads.1 session
      have others := ih reads.2 (session.answer request).2
      exact ⟨others.1.trans first.1, others.2.trans first.2⟩

/-! ## Expanders -/

theorem bindingsOf_eq
    (session : Session State)
    (given : Given)
    (inherit : Bool) :
    session.bindingsOf given inherit =
      (if inherit then session.environment else {}).override (given.variables session) := by
  cases given <;> rfl

/-- An expansion against a supply without a state leaves the supply as it is. -/
theorem runSupply_of_isStateless
    {supply : Supply State}
    (stateless : supply.IsStateless)
    (session : Session State)
    (limits : Limits)
    (mode : Mode)
    (text : Text) :
    (session.runSupply supply fun source state =>
        ParameterExpansion.expand limits mode source text state) =
      (expandWith limits mode (supply.variables session) text, supply) := by
  cases supply with
  | snapshot bindings => rfl
  | live mapping => rfl
  | resolver source state => exact stateless.elim

/-- A request leaves an expander without a state as it is, unless it makes another in its place. -/
theorem get?_expanders_answer
    {session : Session State} {name : Name} {expander : Expander State} {request : Request State}
    (found : session.expanders.get? name = some expander)
    (stateless : expander.supply.IsStateless)
    (kept : ∀ recipe, .create name recipe ≠ request) :
    (session.answer request).2.expanders.get? name = some expander := by
  cases request with
  | setVariable key value => exact found
  | unsetVariable key => exact found
  | setMapping mapping key value => exact found
  | unsetMapping mapping key => exact found
  | lookUp mapping key => exact found
  | expandEnvironment mapping? mode text => exact found
  | create other recipe =>
      have different : name ≠ other := by
        rintro rfl
        exact kept recipe rfl
      rw [answer, Store.get?_put_of_ne _ _ different, found]
  | expand other text =>
      rw [answer]
      by_cases same : name = other
      · subst same
        simp only [found, runSupply_of_isStateless stateless, Store.get?_put_self]
      · split
        · exact found
        · exact (Store.get?_put_of_ne _ _ same).trans found
  | parse template expander? limits text =>
      rw [answer]
      split <;> exact found
  | execute template supply mode =>
      rw [answer]
      split <;> exact found
  | «show» template =>
      rw [answer]
      split <;> exact found

theorem get?_expanders_answerAll
    {session : Session State} {name : Name} {expander : Expander State}
    {requests : List (Request State)}
    (found : session.expanders.get? name = some expander)
    (stateless : expander.supply.IsStateless)
    (kept : ∀ recipe, .create name recipe ∉ requests) :
    (session.answerAll requests).2.expanders.get? name = some expander := by
  induction requests generalizing session with
  | nil => exact found
  | cons request requests ih =>
      apply ih
      · apply get?_expanders_answer found stateless
        rintro recipe rfl
        exact kept recipe List.mem_cons_self
      · exact fun recipe member => kept recipe (List.mem_cons_of_mem _ member)

/-- An expander without a state answers with the variables that its supply stands for. -/
theorem answer_expand_of_isStateless
    {session : Session State} {name : Name} {expander : Expander State}
    (found : session.expanders.get? name = some expander)
    (stateless : expander.supply.IsStateless)
    (text : Text) :
    (session.answer (.expand name text)).1 =
      textResponse
        (expandWith expander.limits expander.mode (expander.supply.variables session) text) := by
  simp only [answer, found, runSupply_of_isStateless stateless]

/--
An expander is made, other requests follow, and it is used.  If it was made without a resolver, it
answers with the variables that were given when it was made, in front of those of the process at
that moment if they are inherited; if it resolves through a mapping, it answers with that mapping as
it is when it is used.  In between, requests that set and unset nothing leave the variables of the
process and all mappings alone, also when they fail.
-/
theorem answer_expand_of_created
    (session : Session State)
    (name : Name)
    (recipe : Recipe State)
    (requests : List (Request State))
    (kept : ∀ other, .create name other ∉ requests)
    (text : Text) :
    let later := (session.answerAll (.create name recipe :: requests)).2
    (recipe.resolver? = none →
      (later.answer (.expand name text)).1 =
        textResponse
          (expandWith recipe.limits recipe.mode
            ((if recipe.inherit then session.environment else {}).override
              (recipe.given.variables session)) text)) ∧
    (∀ mapping, recipe.resolver? = some (.mapping mapping) →
      (later.answer (.expand name text)).1 =
        textResponse (expandWith recipe.limits recipe.mode (later.mapping mapping) text)) ∧
    ∀ more, (∀ request ∈ more, Request.changesVariables request = false) →
      SameVariables (later.answerAll more).2 later := by
  intro later
  have made :
      (session.answer (.create name recipe)).2.expanders.get? name =
        some (session.makeExpander recipe) :=
    Store.get?_put_self _ _ _
  have answers (stateless : (session.makeExpander recipe).supply.IsStateless) :=
    answer_expand_of_isStateless (get?_expanders_answerAll made stateless kept) stateless text
  refine ⟨?_, ?_, fun more reads => sameVariables_answerAll reads later⟩
  · intro none
    have supply :
        (session.makeExpander recipe).supply =
          .snapshot
            ((if recipe.inherit then session.environment else {}).override
              (recipe.given.variables session)) := by
      rw [makeExpander, none, bindingsOf_eq]
    rw [supply] at answers
    exact answers True.intro
  · intro mapping live
    have supply : (session.makeExpander recipe).supply = .live mapping := by
      rw [makeExpander, live]
    rw [supply] at answers
    exact answers True.intro

/--
An expander that copied a mapping and the variables of the process answers with them when all have
changed, and one that resolves through the mapping follows it, after a template that is not closed.
-/
theorem answer_expand_of_created_before_changes :
    let session : Session Unit :=
      { environment := ⟨[(['y'], ['2'])]⟩, mappings := ⟨[(['m'], ⟨[(['x'], ['3'])]⟩)]⟩ }
    let copying : Recipe Unit := ⟨.mapping ['m'], true, none, .lenient, {}⟩
    let following : Recipe Unit := { copying with resolver? := some (.mapping ['m']) }
    let requests : List (Request Unit) :=
      [.setVariable ['y'] ['4'], .unsetMapping ['m'] ['x'], .setMapping ['m'] ['y'] ['5'],
        .create ['f'] following, .expand ['e'] ['$', '{', 'y']]
    let answerTo (recipe : Recipe Unit) :=
      (((session.answerAll (.create ['e'] recipe :: requests)).2).answer
        (.expand ['e'] ['$', '{', 'y', '}'])).1
    (∀ other, .create ['e'] other ∉ requests) ∧
      answerTo copying = .ok (.text ['2']) ∧ answerTo following = .ok (.text ['5']) := by
  intro session copying following requests answerTo
  let text : Text := ['$', '{', 'y', '}']
  have kept : ∀ other, .create ['e'] other ∉ requests := by simp [requests]
  have expanded {bindings : Variables} {value : Text} (found : bindings.get? ['y'] = some value) :
      textResponse (expandWith {} .lenient bindings text) = .ok (.text value) := by
    have isName : Template.IsName ['y'] := by decide
    have present : (bindings.asSource ['y'] ()).1.value? = some value := by simpa using found
    have outcome :
        (expand {} .lenient bindings.asSource
          (Template.enclose (Template.writeBody ['y'] .value)) ()).outcome = .ok value :=
      outcome_expand_value isName (by decide) (by decide) present
    exact congrArg textResponse outcome
  have copies := (answer_expand_of_created session ['e'] copying requests kept text).1 rfl
  have follows := (answer_expand_of_created session ['e'] following requests kept text).2.1 _ rfl
  exact ⟨kept, copies.trans (expanded rfl), follows.trans (expanded rfl)⟩

end Session

end ParameterExpansion
