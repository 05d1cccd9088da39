import Principal.Username

/-!
# Identities

The principal that a strategy authenticates, the capabilities it may carry, and a user as a
user store knows it.
-/

namespace Principal

/-- What a strategy knows of a principal's place among organizations. -/
structure Capabilities where
  userId : Option String := none
  federated : Bool := false
  organizationUser : Bool := false
  accessingOrganization : Option String := none
  residentOrganization : Option String := none
deriving DecidableEq, Repr

namespace Capabilities

def accessesOrganization (c : Capabilities) : Bool :=
  (nonempty? c.accessingOrganization).isSome

end Capabilities

structure Identity where
  username : String
  tenantDomain : Option String := none
  storeDomain : Option String := none
  capabilities? : Option Capabilities := none
deriving DecidableEq, Repr

namespace Identity

variable (identity : Identity)

def isResolved : Bool :=
  identity.capabilities?.isSome

/-- The capabilities carried, or those of a local user about whom nothing is known. -/
def capabilities : Capabilities :=
  identity.capabilities?.getD {}

/-- The identity with capabilities present. -/
def resolved : Identity :=
  match identity.capabilities? with
  | some _ => identity
  | none => { identity with capabilities? := some {} }

end Identity

structure StoredUser where
  userId : String
  username : Option String
  storeDomain : Option String := none
deriving DecidableEq, Repr

end Principal
