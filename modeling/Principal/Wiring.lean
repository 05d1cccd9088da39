import Principal.Logging
import Principal.Session
import Principal.Settings.Cache

/-!
# Wiring

Sessions whose resolver, handler and log are built from settings.
-/

namespace Principal

open Settings

def Naming.ofSettings (s : IdentitySettings) : Naming where
  domainSeparator := s.domainSeparator
  tenantSeparator := s.tenantSeparator
  mailAddresses := s.mailAddresses

namespace Session.Setup

/-- The resolver and the handler of a name as the settings describe them. -/
def direct (settings : IdentitySettings) (handlerName : String)
    (observation? : Option Observation) : Setup where
  naming := .ofSettings settings
  masked := settings.masked
  handlerName := handlerName
  priority := (settings.handler handlerName).priority
  enabled := (settings.handler handlerName).enabled
  observation? := observation?

/-- The same with the log that a library makes of a configuration. -/
def ofSettings (settings : IdentitySettings) (logging : Logging) (library : Logging.Library)
    (handlerName : String) (observation? : Option Observation) : Setup :=
  { direct settings handlerName observation? with sink := logging.sink library }

end Session.Setup

/-- Why a session could not be set up. -/
inductive Refusal where
  | failure (e : Failure)
  | settings (e : Rejection)
deriving DecidableEq, Repr

/-- What a session is wired from. Settings that are left to the cache are given no keywords. -/
structure WiringPlan where
  keywords : Json.Members := []
  environment : Environment := []
  cached : Bool := false
  logLevel : String := "INFO"
  library : Logging.Library := .standard
  handlerName : String := "basic"

namespace WiringPlan

variable (p : WiringPlan)

def identitySettings : Except Rejection IdentitySettings :=
  if p.cached then ({ environment := p.environment } : Cache).identity.1
  else IdentitySettings.load p.environment p.keywords

/-- The log is configured before the settings are read. -/
def setup (observation? : Option Observation) : Except Refusal Session.Setup :=
  match Logging.configure p.logLevel with
  | .error e => .error (.failure e)
  | .ok logging =>
      match p.identitySettings with
      | .error e => .error (.settings e)
      | .ok settings => .ok (.ofSettings settings logging p.library p.handlerName observation?)

end WiringPlan

end Principal
