import Principal.Failure
import Principal.Identity

/-!
# Collaborators

The directories and stores that a resolver asks, each as the function it is to the resolver: an
answer or a failure for every question.
-/

namespace Principal

/-- Finds a user by id, in one store domain or in any. -/
abbrev UserStore := String → Option String → Except Failure (Option StoredUser)

/-- Finds the id of a username in a tenant and a store domain. -/
abbrev UserIdIndex :=
  String → Option String → Option String → Except Failure (Option String)

structure Collaborators where
  /-- The tenant domain of an organization. -/
  tenantDomain : String → Except Failure String
  /-- The tenant id of a tenant domain. -/
  tenantId : String → Except Failure Int
  /-- The user store of a tenant, absent where the tenant has no users of its own. -/
  userStore : Int → Except Failure (Option UserStore)
  userId? : Option UserIdIndex := none

end Principal
