import Principal.Resolver

/-!
# The authentication handler

Runs a strategy and then publishes the identity it found. Publishing is best effort: a failure
that escapes the resolver becomes a diagnostic of the report, and the verdict stays the
strategy's.
-/

namespace Principal

/-- A strategy works on the attempt alone, and returns its verdict or raises. -/
abbrev Strategy := EStateM Failure Attempt Outcome

def Strategy.staged (strategy : Strategy) : Staged Outcome := fun s =>
  match strategy s.attempt with
  | .ok outcome attempt => .ok outcome { s with attempt }
  | .error e attempt => .error e { s with attempt }

/-- How a handler has the identity of an attempt published. -/
abbrev Publication := Outcome → Option Identity → Staged Report

structure Handler where
  name : String
  priority : Int := -1
  enabled : Bool := true
  probe : Probe := {}

namespace Handler

variable (h : Handler)

/-- The priority that stands for none. -/
def unsetPriority : Int := -1

def priorityOr (default : Int) : Int :=
  if h.priority = unsetPriority then default else h.priority

/-- The strategy's verdict. A failure to authenticate is noted on its way out. -/
def verdict (strategy : Strategy) : Staged Outcome :=
  tryCatch strategy.staged fun e => do
    if e.isA .authentication then (h.probe.amid.note (.authenticationErrored h.name e)).staged
    throw e

def noteVerdict (outcome : Outcome) : Traced Unit :=
  if outcome.isSuccess then h.probe.note (.authenticationSucceeded h.name)
  else h.probe.note (.authenticationRejected h.name outcome.detail)

/-- The diagnostic for a failure that escaped the resolver. -/
def escaped (e : Failure) : Failure :=
  .because .propagation ("Identity resolution failed: " ++ e.text) e

def postAuthenticate (publication : Publication) (outcome : Outcome) : Staged Report := do
  let scene ← get
  match ← catching (publication outcome scene.attempt.identity?) with
  | .ok report => return report
  | .error e =>
      (h.probe.amid.note (.publicationFailed h.name e)).staged
      return { applied := true, diagnostics := [escaped e] }

def authenticateWithReport (strategy : Strategy) (publication : Publication) :
    Staged (Outcome × Report) := do
  let outcome ← h.verdict strategy
  (h.noteVerdict outcome).staged
  let report ← h.postAuthenticate publication outcome
  return (outcome, report)

def authenticate (strategy : Strategy) (publication : Publication) : Staged Outcome := do
  let (outcome, _) ← h.authenticateWithReport strategy publication
  return outcome

end Handler

end Principal
