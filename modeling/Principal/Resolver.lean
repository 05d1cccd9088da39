import Principal.Collaborators
import Principal.Outcome
import Principal.Probe
import Principal.Report
import Principal.RequestContext
import Principal.Text.CaseFolding

/-!
# The identity resolver

Publishes an authenticated identity into a request context. All decisions of one resolution are
collected first, while only the trace changes, and the context is then written once, so a
resolution that raises before that leaves the context as it was. A failing look-up is a
diagnostic and never an obstacle to the other decisions. It is noted while it is being handled, and
so is the lack of a user id, which fails the search for one.
-/

namespace Principal

/-- How usernames are put together. -/
structure Naming where
  domainSeparator : String := Username.defaultDomainSeparator
  tenantSeparator : String := Username.defaultTenantSeparator
  mailAddresses : Bool := false
deriving DecidableEq, Repr

/-- One authentication attempt: the context of the request and the principal found so far. -/
structure Attempt where
  request : RequestContext := {}
  identity? : Option Identity := none
deriving DecidableEq, Repr

/-- An attempt together with the trace left while working on it. -/
structure Scene where
  attempt : Attempt
  trace : Trace

abbrev Staged := EStateM Failure Scene

/-- A computation that leaves the attempt alone. -/
def Traced.staged {α : Type} (x : Traced α) : Staged α := fun s =>
  match x s.trace with
  | .ok a t => .ok a { s with trace := t }
  | .error e t => .error e { s with trace := t }

def sameTenant (identityDomain requestDomain : Option String) : Bool :=
  match nonempty? identityDomain, nonempty? requestDomain with
  | some a, some b => foldCase a == foldCase b
  | _, _ => false

/-- What a resolution has decided to write and the failures met on the way. -/
structure Decision where
  update : Update := {}
  diagnostics : List Failure := []
deriving DecidableEq, Repr

namespace Decision

variable (d : Decision)

def set (field : RequestContext.Field) (value : Option String) : Decision :=
  { d with update := d.update.set field value }

def diagnose (e : Failure) : Decision :=
  { d with diagnostics := d.diagnostics ++ [e] }

end Decision

structure Resolver extends Naming where
  collaborators : Collaborators
  probe : Probe := {}

namespace Resolver

variable (r : Resolver)

/-- A username is decided only for an identity of the request's own tenant. -/
def decideUsername (identity : Identity) (request : RequestContext) (d : Decision) :
    Traced Decision :=
  if sameTenant identity.tenantDomain request.tenantDomain then do
    let username := Username.qualify identity.username identity.storeDomain r.domainSeparator
    r.probe.note (.usernamePropagated username identity.tenantDomain)
    return d.set .username (some username)
  else do
    r.probe.note (.crossTenantIdentity identity.tenantDomain request.tenantDomain)
    return d

/-- The user id that the username of an organization's user carries. -/
def surrogate (username : String) : String :=
  Username.withoutDomain
    (Username.withoutTenant username r.tenantSeparator r.mailAddresses) r.domainSeparator

def lookUpUserId (identity : Identity) : Traced (Option String) :=
  match r.collaborators.userId? with
  | none => return none
  | some find =>
      Traced.ask (.userId identity.username identity.tenantDomain identity.storeDomain)
        (find identity.username identity.tenantDomain identity.storeDomain)

def findUserId (identity : Identity) : Traced (Option String) :=
  if identity.capabilities.organizationUser then return some (r.surrogate identity.username)
  else
    match nonempty? identity.capabilities.userId with
    | some userId => return some userId
    | none => r.lookUpUserId identity

def noUserId (identity : Identity) : Failure :=
  .plain .userId
    ("No user id available for identity in tenant " ++ quotedOption identity.tenantDomain)

/-- The user id found, or why there is none. -/
def userIdOf (identity : Identity) : Except Failure (Option String) → Except Failure String
  | .ok found =>
      match nonempty? found with
      | some userId => .ok userId
      | none => .error (noUserId identity)
  | .error e => .error (e.within .userId "User id lookup failed")

def decideUserId (identity : Identity) (d : Decision) : Traced Decision := do
  match userIdOf identity (← catching (r.findUserId identity)) with
  | .ok userId =>
      r.probe.note (.userIdPropagated userId identity.capabilities.organizationUser)
      return d.set .userId (some userId)
  | .error e =>
      r.probe.amid.note (.userIdUnresolved identity.username e)
      return d.diagnose e

/-- The end of a search for the real username of an organization's user. -/
inductive Finding where
  | found (username : String)
  | missing
  | failed (failure : Failure)
deriving DecidableEq, Repr

def Finding.settle (d : Decision) : Finding → Decision
  | found username => d.set .username (some username)
  | missing => d
  | failed e => d.diagnose e

/-- The tenant that hosts an organization, by its domain and its id. -/
def locate (organization : String) : Traced (String × Int) := do
  let domain ← Traced.ask (.tenantDomain organization)
    (r.collaborators.tenantDomain organization)
  let tenant ← Traced.ask (.tenantId domain) (r.collaborators.tenantId domain)
  return (domain, tenant)

/-- The id of a tenant is taken to have a text, however long. -/
def storeUnreadable (tenant : Int) (e : Failure) : Failure :=
  e.within .userStore ("Could not query user store of tenant " ++ toString tenant)

def storeUnavailable (tenant : Int) (e : Failure) : Failure :=
  e.within .userStore ("Could not load user store of tenant " ++ toString tenant)

def noResidentOrganization : Failure :=
  .plain .organization "Identity accesses an organization but declares no resident organization"

def tenantUnresolved (organization : String) (e : Failure) : Failure :=
  e.within .organization ("Could not resolve tenant of organization " ++ quoted organization)

def searchStore (store : UserStore) (domain : String) (tenant : Int) (userId : String) :
    Traced Finding := do
  match ← catching (Traced.ask (.user userId none) (store userId none)) with
  | .error e =>
      r.probe.amid.note (.userStoreUnreadable tenant (storeUnreadable tenant e))
      return .failed (storeUnreadable tenant e)
  | .ok user =>
      match nonempty? (user.bind (·.username)) with
      | none =>
          r.probe.note (.realUsernameMissing userId tenant)
          return .missing
      | some username =>
          r.probe.note (.realUsernameFound userId username domain)
          return .found username

def searchTenant (domain : String) (tenant : Int) (userId : Option String) :
    Traced Finding := do
  match ← catching (Traced.ask (.userStore tenant) (r.collaborators.userStore tenant)) with
  | .error e =>
      r.probe.amid.note (.userStoreUnreadable tenant (storeUnavailable tenant e))
      return .failed (storeUnavailable tenant e)
  | .ok none =>
      r.probe.note (.userStoreUnavailable tenant)
      return .missing
  | .ok (some store) =>
      match nonempty? userId with
      | none => return .missing
      | some userId => r.searchStore store domain tenant userId

/-- The real username lives in the user store of the tenant hosting the resident organization,
under the user id that the request is going to have. -/
def searchOrganization (resident userId : Option String) : Traced Finding :=
  match nonempty? resident with
  | none => do
      r.probe.note (.organizationUnresolved "" noResidentOrganization)
      return .failed noResidentOrganization
  | some organization => do
      match ← catching (r.locate organization) with
      | .error e =>
          r.probe.amid.note
            (.organizationUnresolved organization (tenantUnresolved organization e))
          return .failed (tenantUnresolved organization e)
      | .ok (domain, tenant) => r.searchTenant domain tenant userId

def decideOrganization (identity : Identity) (request : RequestContext) (d : Decision) :
    Traced Decision :=
  let capabilities := identity.capabilities
  match nonempty? capabilities.accessingOrganization with
  | none => return d
  | some accessing => do
      let d := d.set .residentOrganization capabilities.residentOrganization
      r.probe.note
        (.residentOrganizationPropagated capabilities.residentOrganization accessing)
      if capabilities.federated then
        let userId := (d.update.get? .userId).getD request.userId
        let finding ← r.searchOrganization capabilities.residentOrganization userId
        return finding.settle d
      else return d

def decision (identity : Identity) (request : RequestContext) : Traced Decision := do
  let d ← r.decideUsername identity request {}
  let d ← r.decideUserId identity d
  r.decideOrganization identity request d

/-- Writes an update into the request context and gives the names of the fields it changed. -/
def commit (update : Update) : Staged (List String) := fun s =>
  let (request, changed) := s.attempt.request.apply update
  .ok (changed.map (·.name)) { s with attempt := { s.attempt with request } }

def publish (identity : Identity) : Staged Report := do
  let scene ← get
  let d ← (r.decision identity scene.attempt.request).staged
  let changed ← commit d.update
  if !changed.isEmpty then (r.probe.note (.contextUpdated changed)).staged
  return { applied := true, updatedFields := changed, diagnostics := d.diagnostics }

def skip (reason : String) : Staged Report := do
  (r.probe.note (.resolutionSkipped reason)).staged
  return .skipped

/-- Nothing is written unless the outcome is a success with an identity. -/
def resolve (outcome : Outcome) (identity? : Option Identity) : Staged Report :=
  if outcome.isSuccess then
    match identity? with
    | some identity => r.publish identity
    | none => r.skip "no_identity"
  else r.skip "authentication_not_successful"

end Resolver

end Principal
