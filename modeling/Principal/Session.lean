import Principal.Directory
import Principal.Faults
import Principal.Handler

/-!
# Sessions

One resolver and one handler shared by the attempts of a session, over directories in memory. A
step works on one attempt, changes the directories, or sets a fault. The answer to a step holds
its result, the attempt it worked on as the step left it, and the trace of the step.
-/

namespace Principal

/-- What the resolver and the handler of a session are built with. -/
structure Session.Setup where
  naming : Naming := {}
  masked : Bool := false
  handlerName : String := "basic"
  priority : Int := Handler.unsetPriority
  enabled : Bool := true
  observation? : Option Observation := none
  sink : Sink := {}

structure Session where
  setup : Session.Setup := {}
  directory : Directory := {}
  faults : Faults := {}
  attempts : Fields Attempt := []

namespace Session

/-- A scripted strategy: the principal it puts into the attempt, if it touches it, and its
verdict. -/
structure Script where
  identity? : Option (Option Identity) := none
  verdict : Except Failure Outcome

def Script.strategy (script : Script) : Strategy := fun attempt =>
  let attempt :=
    match script.identity? with
    | some identity => { attempt with identity? := identity }
    | none => attempt
  match script.verdict with
  | .ok outcome => .ok outcome attempt
  | .error e => .error e attempt

inductive Step where
  | resolve (outcome : Except Failure Outcome) (identity? : Option Identity)
  | authenticate (script : Script)
  | authenticateWithReport (script : Script)
  | postAuthenticate (identity? : Option (Option Identity)) (outcome : Except Failure Outcome)
  | priority (default : Int)
  | isEnabled
  | name
  | setFault (target : Faults.Target) (failure : Option Failure)
  | setContext (fields : List (String × Option String))
  | registerOrganization (organization domain : String)
  | registerTenant (domain : String) (tenant : Int)
  | registerStore (tenant : Int) (users : List StoredUser)
  | addUser (tenant : Int) (user : StoredUser)
  | registerUserId (userId username : String) (tenantDomain storeDomain : Option String)

/-- The value of a step. A verdict comes with whether it is the strategy's own. -/
inductive Reply where
  | nothing
  | report (report : Report)
  | verdict (outcome : Outcome) (own : Bool) (report? : Option Report)
  | number (value : Int)
  | flag (value : Bool)
  | text (value : String)
deriving DecidableEq, Repr

structure Answer where
  result : Except Failure Reply
  attempt : Attempt
  trace : Trace

variable (s : Session)

def attempt (name : String) : Attempt :=
  (Fields.get? name s.attempts).getD {}

def putAttempt (name : String) (attempt : Attempt) : Session :=
  { s with attempts := Fields.put name attempt s.attempts }

def logger : Logger where
  toSink := s.setup.sink
  fault? record := if s.setup.sink.reliable then none else s.faults.ofRecord record

/-- The probe of the handler, whose events have nothing to mask. -/
def probe : Probe where
  observation? := s.setup.observation?
  logger := s.logger

def resolver : Resolver where
  toNaming := s.setup.naming
  collaborators := s.faults.guard s.directory.collaborators
  probe := { s.probe with masked := s.setup.masked }

def handler : Handler where
  name := s.setup.handlerName
  priority := s.setup.priority
  enabled := s.setup.enabled
  probe := s.probe

/-- The resolver as the handler calls it, behind the resolver's own fault. -/
def publication : Publication := fun outcome identity? =>
  match s.faults.resolver with
  | some e => throw e
  | none => s.resolver.resolve outcome identity?

/-- A verdict, compared with the one that the strategy was told to give. -/
def Script.reply (script : Script) (outcome : Outcome) (report? : Option Report) : Reply :=
  let own :=
    match script.verdict with
    | .ok given => outcome = given
    | .error _ => false
  .verdict outcome own report?

/-- The computation that a step makes on its attempt; other steps make none. -/
def action : Step → Staged Reply
  | .resolve outcome identity? => do
      let outcome ← MonadExcept.ofExcept outcome
      return .report (← s.resolver.resolve outcome identity?)
  | .authenticate script => do
      let outcome ← s.handler.authenticate script.strategy s.publication
      return script.reply outcome none
  | .authenticateWithReport script => do
      let (outcome, report) ← s.handler.authenticateWithReport script.strategy s.publication
      return script.reply outcome (some report)
  | .postAuthenticate identity? outcome => do
      if let some identity := identity? then
        modify fun scene => { scene with attempt := { scene.attempt with identity? := identity } }
      let outcome ← MonadExcept.ofExcept outcome
      return .report (← s.handler.postAuthenticate s.publication outcome)
  | .priority default => return .number (s.handler.priorityOr default)
  | .isEnabled => return .flag s.handler.enabled
  | .name => return .text s.handler.name
  | .setContext fields =>
      modifyGet fun scene =>
        let request := fields.foldl (fun c (name, value) => c.setNamed name value)
          scene.attempt.request
        (.nothing, { scene with attempt := { scene.attempt with request } })
  | _ => return .nothing

/-- What a step changes besides its attempt. -/
def change : Step → Session
  | .setFault target failure => { s with faults := s.faults.set target failure }
  | .registerOrganization organization domain =>
      let organizations := s.directory.organizations.register organization domain
      { s with directory := { s.directory with organizations } }
  | .registerTenant domain tenant =>
      { s with directory := { s.directory with
          tenants := s.directory.tenants.register domain tenant } }
  | .registerStore tenant users =>
      let name := toString tenant
      let stores := (s.directory.stores.put name (.ofList users)).register tenant name
      { s with directory := { s.directory with stores } }
  | .addUser tenant user =>
      { s with directory := { s.directory with
          stores := s.directory.stores.add (toString tenant) user } }
  | .registerUserId userId username tenantDomain storeDomain =>
      { s with directory := { s.directory with
          userIds? := s.directory.userIds?.map
            (·.register userId username tenantDomain storeDomain) } }
  | _ => s

/-- Runs one step on the attempt of a name. The attempt stays as the step left it even if the
step raised. -/
def step (name : String) (step : Step) : Answer × Session :=
  match s.action step ⟨s.attempt name, {}⟩ with
  | .ok reply scene =>
      (⟨.ok reply, scene.attempt, scene.trace⟩,
        (s.change step).putAttempt name scene.attempt)
  | .error e scene =>
      (⟨.error e, scene.attempt, scene.trace⟩,
        (s.change step).putAttempt name scene.attempt)

/-- The answers to the steps of a session in order. -/
def run (s : Session) : List (String × Step) → List Answer
  | [] => []
  | (name, step) :: rest =>
      let (answer, s) := s.step name step
      answer :: run s rest

@[simp] theorem run_nil (s : Session) : s.run [] = [] := rfl

theorem run_cons (s : Session) (name : String) (step : Step) (rest : List (String × Step)) :
    s.run ((name, step) :: rest) = (s.step name step).1 :: (s.step name step).2.run rest := rfl

end Session

end Principal
