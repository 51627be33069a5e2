import ParameterExpansion.Template

/-!
# Sessions

A session holds the variables of a process, named mappings, named expanders and named templates.
An expander without a resolver copies its variables when it is made, and nothing that happens later
changes what it answers; one that resolves through a mapping follows the mapping; one with a
resolver of its own keeps that resolver's state from one expansion to the next.
-/

namespace ParameterExpansion

open Expansion

/-- Where an expander finds its variables. -/
inductive Supply (State : Type) where
  | snapshot (bindings : Variables)
  | live (mapping : Name)
  | resolver (source : Source State) (state : State)

/-- An expander: where its variables are, and its options. -/
structure Expander (State : Type) where
  supply : Supply State
  mode : Mode
  limits : Limits

/-- A resolver that a caller gives to an expander: a mapping that stays live, or a source. -/
inductive Resolver (State : Type) where
  | mapping (name : Name)
  | source (source : Source State) (state : State)

/-- The variables that a caller gives: as they are, or as a mapping holds them now. -/
inductive Given where
  | bindings (bindings : Variables)
  | mapping (name : Name)

/-- What an expander is made from.  A resolver takes the place of all variables. -/
structure Recipe (State : Type) where
  given : Given
  inherit : Bool
  resolver? : Option (Resolver State)
  mode : Mode
  limits : Limits

/-- What a session holds. -/
structure Session (State : Type) where
  environment : Variables := {}
  mappings : Store Variables := {}
  expanders : Store (Expander State) := {}
  templates : Store Template := {}

namespace Session

variable {State : Type}

/-- A request to a session. -/
inductive Request (State : Type) where
  | setVariable (name : Name) (value : Text)
  | unsetVariable (name : Name)
  | setMapping (mapping name : Name) (value : Text)
  | unsetMapping (mapping name : Name)
  | lookUp (mapping name : Name)
  | create (expander : Name) (recipe : Recipe State)
  | expand (expander : Name) (text : Text)
  | expandEnvironment (mapping? : Option Name) (mode : Mode) (text : Text)
  | parse (template : Name) (expander? : Option Name) (limits : Limits) (text : Text)
  | execute (template : Name) (supply : Supply State) (mode : Mode)
  | show (template : Name)

/-- What a session answers to a request that succeeds. -/
inductive Response where
  | done
  | reply (reply : Reply)
  | created (mode : Mode)
  | text (text : Text)
  deriving DecidableEq, Repr

/-- Why a session does not do what a request asks for. -/
inductive Problem where
  | failure (failure : Failure)
  | unknownName (name : Name)
  deriving DecidableEq, Repr

/-- A mapping of a session; one that was never mentioned is empty. -/
def mapping (session : Session State) (name : Name) : Variables :=
  (session.mappings.get? name).getD {}

/-- The variables that an expander without a resolver copies when it is made. -/
def bindingsOf (session : Session State) (given : Given) (inherit : Bool) : Variables :=
  let own :=
    match given with
    | .bindings bindings => bindings
    | .mapping name => session.mapping name
  (if inherit then session.environment else {}).override own

/-- Make an expander. -/
def makeExpander (session : Session State) (recipe : Recipe State) : Expander State :=
  { supply :=
      match recipe.resolver? with
      | none => .snapshot (session.bindingsOf recipe.given recipe.inherit)
      | some (.mapping name) => .live name
      | some (.source source state) => .resolver source state
    mode := recipe.mode
    limits := recipe.limits }

/-- Run an expansion against a supply: its outcome, and the supply that is left. -/
def runSupply (session : Session State) (supply : Supply State)
    (expansion : {Inner : Type} → Source Inner → Inner → Run Inner Text) :
    Except Failure Text × Supply State :=
  match supply with
  | .snapshot bindings => ((expansion bindings.asSource ()).outcome, supply)
  | .live name => ((expansion (session.mapping name).asSource ()).outcome, supply)
  | .resolver source state =>
    let run := expansion source state
    (run.outcome, .resolver source run.state)

/-- A text, or the problem that there is none. -/
def textResponse (outcome : Except Failure Text) : Except Problem Response :=
  (outcome.map .text).mapError .failure

/-- The limits for a template: those of the expander that is to parse it, or the given ones. -/
def limitsFor (session : Session State) (expander? : Option Name) (limits : Limits) :
    Except Problem Limits :=
  match expander? with
  | none => .ok limits
  | some name =>
    match session.expanders.get? name with
    | none => .error (.unknownName name)
    | some expander => .ok expander.limits

/-- The template that a request to parse makes. -/
def templateFor (session : Session State) (expander? : Option Name) (limits : Limits)
    (text : Text) : Except Problem Template := do
  let limits ← session.limitsFor expander? limits
  (Template.parse limits text).mapError .failure

/-- Answer a request. -/
def answer (session : Session State) :
    Request State → Except Problem Response × Session State
  | .setVariable name value =>
    (.ok .done, { session with environment := session.environment.put name value })
  | .unsetVariable name =>
    (.ok .done, { session with environment := session.environment.drop name })
  | .setMapping mapping name value =>
    let changed := (session.mapping mapping).put name value
    (.ok .done, { session with mappings := session.mappings.put mapping changed })
  | .unsetMapping mapping name =>
    let changed := (session.mapping mapping).drop name
    (.ok .done, { session with mappings := session.mappings.put mapping changed })
  | .lookUp mapping name =>
    (.ok (.reply (.ofValue? ((session.mapping mapping).get? name))), session)
  | .create expander recipe =>
    (.ok (.created recipe.mode),
      { session with
        expanders := session.expanders.put expander (session.makeExpander recipe) })
  | .expand name text =>
    match session.expanders.get? name with
    | none => (.error (.unknownName name), session)
    | some expander =>
      let (outcome, supply) := session.runSupply expander.supply fun source state =>
        ParameterExpansion.expand expander.limits expander.mode source text state
      (textResponse outcome,
        { session with
          expanders := session.expanders.put name { expander with supply := supply } })
  | .expandEnvironment mapping? mode text =>
    let bindings :=
      match mapping? with
      | none => session.environment
      | some name => session.mapping name
    (textResponse (expandWith {} mode bindings text), session)
  | .parse name expander? limits text =>
    match session.templateFor expander? limits text with
    | .error problem => (.error problem, session)
    | .ok template =>
      (.ok (.text template.source),
        { session with templates := session.templates.put name template })
  | .execute name supply mode =>
    match session.templates.get? name with
    | none => (.error (.unknownName name), session)
    | some template =>
      let (outcome, _) := session.runSupply supply fun source state =>
        template.expand mode source state
      (textResponse outcome, session)
  | .show name =>
    match session.templates.get? name with
    | none => (.error (.unknownName name), session)
    | some template => (.ok (.text template.shown), session)

/-- Answer requests one after the other. -/
def answerAll (session : Session State) :
    List (Request State) → List (Except Problem Response) × Session State
  | [] => ([], session)
  | request :: rest =>
    let (response, next) := session.answer request
    let (responses, last) := next.answerAll rest
    (response :: responses, last)

end Session

end ParameterExpansion
