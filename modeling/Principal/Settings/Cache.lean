import Principal.Settings.Identity
import Principal.Settings.Service

/-!
# Cached settings

An environment with the settings that have been read from it. Settings are read once and kept
until they are cleared, whatever becomes of the environment; a reading that is refused leaves
nothing behind.
-/

namespace Principal.Settings

structure Cache where
  environment : Environment := []
  service? : Option ServiceSettings := none
  identity? : Option IdentitySettings := none

namespace Cache

variable (c : Cache)

def service : Except Rejection ServiceSettings × Cache :=
  match c.service? with
  | some s => (.ok s, c)
  | none =>
      match ServiceSettings.load c.environment with
      | .ok s => (.ok s, { c with service? := some s })
      | .error e => (.error e, c)

def identity : Except Rejection IdentitySettings × Cache :=
  match c.identity? with
  | some s => (.ok s, c)
  | none =>
      match IdentitySettings.load c.environment with
      | .ok s => (.ok s, { c with identity? := some s })
      | .error e => (.error e, c)

/-- The identity settings by way of the service settings, which are read first. -/
def identityOfService : Except Rejection IdentitySettings × Cache :=
  match c.service with
  | (.ok _, c) => c.identity
  | (.error e, c) => (.error e, c)

/-- Sets a variable, or unsets it where there is no value. -/
def assign (env : Environment) (name : String) : Option String → Environment
  | some value => env.set name value
  | none => env.unset name

def setVariables (values : List (String × Option String)) : Cache :=
  let environment := values.foldl (fun env (name, value) => assign env name value) c.environment
  { c with environment }

def clearService : Cache :=
  { c with service? := none }

def clearIdentity : Cache :=
  { c with identity? := none }

end Cache

end Principal.Settings
