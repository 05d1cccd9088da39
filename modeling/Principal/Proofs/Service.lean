import Principal.Proofs.Simulation
import Principal.Session

/-!
# Services

A service takes turns on the attempts it is given, with the resolver and the handler of its setup.
A turn comes with the collaborators that answer it and with what else may raise in it, so nothing
is said of where these come from. A session is the service of its own setup, whose directory and
faults make the turns.
-/

namespace Principal

inductive Turn.Task where
  | resolve (outcome : Except Failure Outcome) (identity? : Option Identity)
  | authenticate (strategy : Strategy)
  | authenticateWithReport (strategy : Strategy)
  /-- Publishes after an outcome that was come to without the handler. -/
  | postAuthenticate (strategy : Strategy)
  | priority (default : Int)
  | isEnabled
  | name
  | edit (change : Attempt → Attempt)

/-- Some work on the attempt of a name. -/
structure Turn where
  attempt : String
  task : Turn.Task
  collaborators : Collaborators
  /-- What the resolver raises as the handler calls it, if anything. -/
  resolverFault? : Option Failure := none
  /-- What the log raises once it has kept a record, unless its sink is reliable. -/
  logFault? : Record → Option Failure := fun _ => none

/-- Whether an outcome is the one that a strategy gives for an attempt. -/
def Strategy.gives (strategy : Strategy) (attempt : Attempt) (outcome : Outcome) : Bool :=
  match strategy attempt with
  | .ok given _ => outcome = given
  | .error _ _ => false

namespace Session

/-- The answer of a step or a turn whose computation ends so. -/
def Answer.of : EStateM.Result Failure Scene Reply → Answer
  | .ok reply scene => ⟨.ok reply, scene.attempt, scene.trace⟩
  | .error e scene => ⟨.error e, scene.attempt, scene.trace⟩

namespace Setup

variable (setup : Setup) (turn : Turn)

def logger : Logger where
  toSink := setup.sink
  fault? record := if setup.sink.reliable then none else turn.logFault? record

def probe : Probe where
  observation? := setup.observation?
  logger := setup.logger turn

def resolver : Resolver where
  toNaming := setup.naming
  collaborators := turn.collaborators
  probe := { setup.probe turn with masked := setup.masked }

def handler : Handler where
  name := setup.handlerName
  priority := setup.priority
  enabled := setup.enabled
  probe := setup.probe turn

def publication : Publication := fun outcome identity? =>
  match turn.resolverFault? with
  | some e => throw e
  | none => (setup.resolver turn).resolve outcome identity?

/-- The computation of a turn that finds its attempt as given. -/
def action (found : Attempt) : Staged Reply :=
  match turn.task with
  | .resolve outcome identity? => do
      let outcome ← MonadExcept.ofExcept outcome
      return .report (← (setup.resolver turn).resolve outcome identity?)
  | .authenticate strategy => do
      let outcome ← (setup.handler turn).authenticate strategy (setup.publication turn)
      return .verdict outcome (strategy.gives found outcome) none
  | .authenticateWithReport strategy => do
      let (outcome, report) ←
        (setup.handler turn).authenticateWithReport strategy (setup.publication turn)
      return .verdict outcome (strategy.gives found outcome) (some report)
  | .postAuthenticate strategy => do
      let outcome ← strategy.staged
      return .report (← (setup.handler turn).postAuthenticate (setup.publication turn) outcome)
  | .priority default => return .number ((setup.handler turn).priorityOr default)
  | .isEnabled => return .flag (setup.handler turn).enabled
  | .name => return .text (setup.handler turn).name
  | .edit change =>
      modifyGet fun scene => (.nothing, { scene with attempt := change scene.attempt })

def answer (attempts : Fields Attempt) : Answer :=
  let found := (Fields.get? turn.attempt attempts).getD {}
  .of (setup.action turn found ⟨found, {}⟩)

/-- The answers to turns in order, each of which leaves its attempt to those that follow. -/
def serve : Fields Attempt → List Turn → List Answer
  | _, [] => []
  | attempts, turn :: turns =>
      let answer := setup.answer turn attempts
      answer :: serve (Fields.put turn.attempt answer.attempt attempts) turns

end Setup

section Turns

variable (s : Session)

def Step.task : Step → Turn.Task
  | .resolve outcome identity? => .resolve outcome identity?
  | .authenticate script => .authenticate script.strategy
  | .authenticateWithReport script => .authenticateWithReport script.strategy
  | .postAuthenticate identity? outcome =>
      .postAuthenticate ({ identity?, verdict := outcome } : Script).strategy
  | .priority default => .priority default
  | .isEnabled => .isEnabled
  | .name => .name
  | .setContext fields => .edit fun attempt =>
      { attempt with
        request := fields.foldl (fun c (field, value) => c.setNamed field value) attempt.request }
  | _ => .edit id

/-- The turn that a step takes in a session as it stands. -/
def turn (name : String) (step : Step) : Turn where
  attempt := name
  task := step.task
  collaborators := s.faults.guard s.directory.collaborators
  resolverFault? := s.faults.resolver
  logFault? := s.faults.ofRecord

def turns : Session → List (String × Step) → List Turn
  | _, [] => []
  | s, (name, step) :: rest => s.turn name step :: turns (s.change step) rest

theorem setup_change (step : Step) : (s.change step).setup = s.setup := by
  cases step <;> rfl

/-- What a step changes besides its attempt does not depend on the attempts. -/
theorem change_attempts (attempts : Fields Attempt) (step : Step) :
    { s with attempts }.change step = { s.change step with attempts } := by
  cases step <;> rfl

/-- A turn does not depend on what the session is wired from. -/
theorem turns_setup (setup : Setup) (steps : List (String × Step)) :
    { s with setup }.turns steps = s.turns steps := by
  induction steps generalizing s with
  | nil => rfl
  | cons head rest ih =>
      obtain ⟨name, step⟩ := head
      have hc : { s with setup }.change step = { s.change step with setup } := by
        cases step <;> rfl
      dsimp only [turns]
      rw [hc, ih]
      rfl

theorem Script.gives_strategy (script : Script) (attempt : Attempt) (outcome : Outcome)
    (report? : Option Report) :
    script.reply outcome report? =
      .verdict outcome (script.strategy.gives attempt outcome) report? := by
  unfold Script.reply Strategy.gives Script.strategy
  cases script.verdict <;> rfl

theorem action_eq (name : String) (step : Step) (attempt : Attempt) (t : Trace) :
    s.action step ⟨attempt, t⟩ =
      s.setup.action (s.turn name step) attempt ⟨attempt, t⟩ := by
  cases step with
  | authenticate script =>
      simp only [action, Script.gives_strategy script attempt]
      rfl
  | authenticateWithReport script =>
      simp only [action, Script.gives_strategy script attempt]
      rfl
  | postAuthenticate identity? outcome =>
      cases identity? <;> cases outcome <;> rfl
  | _ => rfl

theorem step_eq (name : String) (step : Step) :
    s.step name step =
      let answer := Answer.of (s.action step ⟨s.attempt name, {}⟩)
      (answer, (s.change step).putAttempt name answer.attempt) := by
  unfold Session.step
  cases s.action step ⟨s.attempt name, {}⟩ <;> rfl

theorem step_attempts (attempts : Fields Attempt) (name : String) (step : Step) :
    { s with attempts }.step name step =
      let answer := s.setup.answer (s.turn name step) attempts
      (answer, { s.change step with attempts := Fields.put name answer.attempt attempts }) := by
  rw [step_eq, action_eq _ name, change_attempts]
  rfl

/-- A session is served by its setup. -/
theorem run_eq_serve (steps : List (String × Step)) :
    s.run steps = s.setup.serve s.attempts (s.turns steps) := by
  -- The turns do not depend on the attempts, which vary along a run.
  have h : ∀ attempts, { s with attempts }.run steps = s.setup.serve attempts (s.turns steps) := by
    induction steps generalizing s with
    | nil => exact fun _ => rfl
    | cons head rest ih =>
        obtain ⟨name, step⟩ := head
        intro attempts
        rw [run_cons, step_attempts]
        dsimp only [turns, Setup.serve]
        rw [ih (s.change step), setup_change]
        rfl
  exact h s.attempts

end Turns

/-- The answer with its records passed through a filter. -/
def Answer.through (f : Record → Option Record) (answer : Answer) : Answer :=
  { answer with trace := answer.trace.through f }

theorem Answer.of_leaving (f : Record → Option Record) (x : EStateM.Result Failure Scene Reply) :
    Answer.of (leaving (Scene.through f) x) = (Answer.of x).through f := by
  cases x <;> rfl

/-- The second setup does in a turn what the first does, and keeps what the filter makes of the
records that the first keeps. -/
structure Setup.Through (a : Setup) (f : Record → Option Record) (turn : Turn) (b : Setup) :
    Prop where
  naming : b.naming = a.naming
  handlerName : b.handlerName = a.handlerName
  priority : b.priority = a.priority
  enabled : b.enabled = a.enabled
  resolverProbe : (a.resolver turn).probe.Through f (b.resolver turn).probe
  handlerProbe : (a.handler turn).probe.Through f (b.handler turn).probe

namespace Setup

section Through

variable {f : Record → Option Record} {turn : Turn} {a b : Setup}

theorem Through.resolver_eq (h : a.Through f turn b) :
    b.resolver turn = { a.resolver turn with probe := (b.resolver turn).probe } := by
  simp only [resolver, h.naming]

theorem Through.handler_eq (h : a.Through f turn b) :
    b.handler turn = { a.handler turn with probe := (b.handler turn).probe } := by
  simp only [handler, h.handlerName, h.priority, h.enabled]

theorem along_publication (h : a.Through f turn b) (outcome : Outcome)
    (identity? : Option Identity) :
    Along (Scene.through f) (a.publication turn outcome identity?)
      (b.publication turn outcome identity?) := by
  unfold publication
  cases turn.resolverFault? with
  | some e => exact along_throw e
  | none =>
      rw [h.resolver_eq]
      exact Resolver.along_resolve h.resolverProbe outcome identity?

theorem along_action (h : a.Through f turn b) (found : Attempt) :
    Along (Scene.through f) (a.action turn found) (b.action turn found) := by
  unfold action
  rw [h.resolver_eq, h.handler_eq]
  cases turn.task with
  | resolve outcome identity? =>
      cases outcome with
      | error e => exact along_throw e
      | ok outcome =>
          exact (Resolver.along_resolve h.resolverProbe outcome identity?).bind fun _ =>
            along_pure _
  | authenticate strategy =>
      apply (Handler.along_authenticate h.handlerProbe (along_publication h) strategy).bind
      intro outcome
      exact along_pure _
  | authenticateWithReport strategy =>
      apply (Handler.along_authenticateWithReport h.handlerProbe (along_publication h)
        strategy).bind
      rintro ⟨outcome, report⟩
      exact along_pure _
  | postAuthenticate strategy =>
      apply (Strategy.along_staged strategy).bind
      intro outcome
      apply (Handler.along_postAuthenticate h.handlerProbe (along_publication h) outcome).bind
      intro report
      exact along_pure _
  | priority default => exact along_pure _
  | isEnabled => exact along_pure _
  | name => exact along_pure _
  | edit change => exact fun _ => rfl

theorem answer_through (h : a.Through f turn b) (attempts : Fields Attempt) :
    b.answer turn attempts = (a.answer turn attempts).through f := by
  have hx := along_action h ((Fields.get? turn.attempt attempts).getD {})
    ⟨(Fields.get? turn.attempt attempts).getD {}, {}⟩
  unfold answer
  rw [← Answer.of_leaving, ← hx]
  rfl

/-- Two setups that do the same in every turn answer alike but for what their logs keep. -/
theorem serve_through {turns : List Turn} (h : ∀ turn ∈ turns, a.Through f turn b)
    (attempts : Fields Attempt) :
    b.serve attempts turns = (a.serve attempts turns).map (·.through f) := by
  induction turns generalizing attempts with
  | nil => rfl
  | cons turn turns ih =>
      obtain ⟨hturn, hturns⟩ := List.forall_mem_cons.1 h
      dsimp only [serve]
      rw [answer_through hturn, ih hturns]
      rfl

end Through

end Setup

end Session

end Principal
