import Principal.Failure
import Principal.Json.Basic
import Principal.Username

/-!
# Events

What the resolver and the handler report, each event with its level, its name and its fields.
Where masking is on, usernames and user ids are masked; the username of an identity without a
user id is masked always.
-/

namespace Principal

inductive Level where
  | debug
  | info
  | warning
  | error
  | critical
deriving DecidableEq, Repr

namespace Level

def all : List Level :=
  [debug, info, warning, error, critical]

def name : Level → String
  | debug => "debug"
  | info => "info"
  | warning => "warning"
  | error => "error"
  | critical => "critical"

def rank : Level → Nat
  | debug => 10
  | info => 20
  | warning => 30
  | error => 40
  | critical => 50

end Level

inductive Event where
  | resolutionSkipped (reason : String)
  | usernamePropagated (username : String) (tenantDomain : Option String)
  | crossTenantIdentity (identityDomain requestDomain : Option String)
  | userIdPropagated (userId : String) (organizationUser : Bool)
  | userIdUnresolved (username : String) (failure : Failure)
  | residentOrganizationPropagated (resident : Option String) (accessing : String)
  | organizationUnresolved (organization : String) (failure : Failure)
  | userStoreUnavailable (tenant : Int)
  | userStoreUnreadable (tenant : Int) (failure : Failure)
  | realUsernameFound (userId username : String) (tenantDomain : String)
  | realUsernameMissing (userId : String) (tenant : Int)
  | contextUpdated (fields : List String)
  | authenticationSucceeded (handler : String)
  | authenticationRejected (handler : String) (detail : Option String)
  | authenticationErrored (handler : String) (failure : Failure)
  | publicationFailed (handler : String) (failure : Failure)
deriving DecidableEq, Repr

namespace Event

def level : Event → Level
  | resolutionSkipped .. => .debug
  | usernamePropagated .. => .debug
  | crossTenantIdentity .. => .debug
  | userIdPropagated .. => .debug
  | userIdUnresolved .. => .error
  | residentOrganizationPropagated .. => .debug
  | organizationUnresolved .. => .error
  | userStoreUnavailable .. => .debug
  | userStoreUnreadable .. => .error
  | realUsernameFound .. => .info
  | realUsernameMissing .. => .warning
  | contextUpdated .. => .debug
  | authenticationSucceeded .. => .info
  | authenticationRejected .. => .warning
  | authenticationErrored .. => .warning
  | publicationFailed .. => .error

def name : Event → String
  | resolutionSkipped .. => "identity_resolution_skipped"
  | usernamePropagated .. => "identity_username_propagated"
  | crossTenantIdentity .. => "identity_cross_tenant"
  | userIdPropagated .. => "identity_user_id_propagated"
  | userIdUnresolved .. => "identity_user_id_unresolved"
  | residentOrganizationPropagated .. => "identity_resident_organization_propagated"
  | organizationUnresolved .. => "identity_organization_resolution_failed"
  | userStoreUnavailable .. => "identity_user_store_unavailable"
  | userStoreUnreadable .. => "identity_user_store_access_failed"
  | realUsernameFound .. => "identity_organization_sso_username_resolved"
  | realUsernameMissing .. => "identity_organization_sso_username_not_found"
  | contextUpdated .. => "identity_request_context_updated"
  | authenticationSucceeded .. => "authentication_succeeded"
  | authenticationRejected .. => "authentication_rejected"
  | authenticationErrored .. => "authentication_errored"
  | publicationFailed .. => "post_authentication_failed"

/-- A username or user id as a field shows it. -/
def identifier (masked : Bool) (value : String) : Json :=
  .str (if masked then Username.mask value else value)

def failureFields (failure : Failure) : Fields Json :=
  [("error", .str failure.text), ("error_type", .str failure.kind.name)]

def fields (masked : Bool) : Event → Fields Json
  | resolutionSkipped reason => [("reason", .str reason)]
  | usernamePropagated username tenantDomain =>
      [("username", identifier masked username),
        ("identity_tenant_domain", .ofOption tenantDomain)]
  | crossTenantIdentity identityDomain requestDomain =>
      [("identity_tenant_domain", .ofOption identityDomain),
        ("request_tenant_domain", .ofOption requestDomain)]
  | userIdPropagated userId organizationUser =>
      [("user_id", identifier masked userId), ("organization_user", .bool organizationUser)]
  | userIdUnresolved username failure =>
      ("username", identifier true username) :: failureFields failure
  | residentOrganizationPropagated resident accessing =>
      [("resident_organization_id", .ofOption resident),
        ("accessing_organization_id", .str accessing)]
  | organizationUnresolved organization failure =>
      ("organization_id", .str organization) :: failureFields failure
  | userStoreUnavailable tenant => [("tenant_id", .int tenant)]
  | userStoreUnreadable tenant failure => ("tenant_id", .int tenant) :: failureFields failure
  | realUsernameFound userId username tenantDomain =>
      [("user_id", identifier masked userId), ("username", identifier masked username),
        ("resident_tenant_domain", .str tenantDomain)]
  | realUsernameMissing userId tenant =>
      [("user_id", identifier masked userId), ("tenant_id", .int tenant)]
  | contextUpdated names => [("fields", .strings names)]
  | authenticationSucceeded handler => [("handler", .str handler)]
  | authenticationRejected handler detail =>
      [("handler", .str handler), ("detail", .ofOption detail)]
  | authenticationErrored handler failure => ("handler", .str handler) :: failureFields failure
  | publicationFailed handler failure => ("handler", .str handler) :: failureFields failure

end Event

end Principal
