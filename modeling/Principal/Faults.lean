import Principal.Collaborators
import Principal.Directory
import Principal.Trace

/-!
# Faults

Failures that are raised in place of answers: by a collaborator, by the resolver as the handler
calls it, or by the log.
-/

namespace Principal

/-- What raises instead of answering. A logger raises once it has kept a record of a name, unless
its sink is reliable. -/
structure Faults where
  organizations : Option Failure := none
  tenants : Option Failure := none
  registry : Option Failure := none
  store : Option Failure := none
  userIds : Option Failure := none
  resolver : Option Failure := none
  log : Index String (Option Failure) := []

namespace Faults

inductive Target where
  | organizations
  | tenants
  | registry
  | store
  | userIds
  | resolver
  | log (event : String)
deriving DecidableEq, Repr

def set (f : Faults) (target : Target) (failure : Option Failure) : Faults :=
  match target with
  | .organizations => { f with organizations := failure }
  | .tenants => { f with tenants := failure }
  | .registry => { f with registry := failure }
  | .store => { f with store := failure }
  | .userIds => { f with userIds := failure }
  | .resolver => { f with resolver := failure }
  | .log event => { f with log := Index.insert event failure f.log }

/-- The answer, unless there is a fault. -/
def guarding {α : Type} (fault : Option Failure) (answer : Except Failure α) : Except Failure α :=
  match fault with
  | some e => .error e
  | none => answer

def guardStore (f : Faults) (store : UserStore) : UserStore := fun userId storeDomain =>
  guarding f.store (store userId storeDomain)

/-- The collaborators with the faults in front of them. -/
def guard (f : Faults) (c : Collaborators) : Collaborators where
  tenantDomain organization := guarding f.organizations (c.tenantDomain organization)
  tenantId domain := guarding f.tenants (c.tenantId domain)
  userStore tenant :=
    guarding f.registry ((c.userStore tenant).map fun store => store.map f.guardStore)
  userId? := c.userId?.map fun find username tenantDomain storeDomain =>
    guarding f.userIds (find username tenantDomain storeDomain)

def ofRecord (f : Faults) (record : Record) : Option Failure :=
  (Index.find? record.name f.log).join

end Faults

end Principal
