import Principal.Settings.Environment
import Principal.Settings.Handlers
import Principal.Username

/-!
# Settings of identity resolution

The separators of usernames, the flags of the resolver and its log, and the handlers configured.
Each separator is one character and the two differ. Keywords count before variables and variables
before defaults, and handlers given both ways are merged.
-/

namespace Principal.Settings

structure IdentitySettings where
  domainSeparator : String := Username.defaultDomainSeparator
  tenantSeparator : String := Username.defaultTenantSeparator
  mailAddresses : Bool := false
  masked : Bool := false
  handlers : Fields HandlerSettings Json.Text := []
deriving DecidableEq, Repr

namespace IdentitySettings

def variableStart : String := "AUTH_SERVICE_AUTHN_"

def separator (value : Json) : Except Issue String :=
  match Reading.text value with
  | .ok s => if s.length = 1 then .ok s else .error (.separatorLength s)
  | .error issue => .error issue

/-- The comparison of the separators, made once every field is valid. -/
def distinct (s : IdentitySettings) : Checked IdentitySettings :=
  if s.domainSeparator = s.tenantSeparator then
    .error [⟨[], .equalSeparators s.domainSeparator⟩]
  else .ok s

def ofFields (raw : Json.Members) : Checked IdentitySettings :=
  let default : IdentitySettings := {}
  let one {α : Type} (name : String) (value : α) (read : Json → Except Issue α) : Checked α :=
    Checked.field raw name value fun json => .located [name] (read json)
  let domainSeparator := one "domain_separator" default.domainSeparator separator
  let tenantSeparator := one "tenant_separator" default.tenantSeparator separator
  let mailAddresses := one "enable_email_username" default.mailAddresses Reading.flag
  let masked := one "mask_user_info_in_logs" default.masked Reading.flag
  let handlers := Checked.field raw "handlers" default.handlers
    (HandlerSettings.ofMapping ["handlers"])
  let all := domainSeparator.both (tenantSeparator.both (mailAddresses.both
    (masked.both handlers)))
  match all with
  | .ok (domainSeparator, tenantSeparator, mailAddresses, masked, handlers) =>
      distinct { domainSeparator, tenantSeparator, mailAddresses, masked, handlers }
  | .error details => .error details

def environmentFields (env : Environment) : Except Rejection Json.Members :=
  match env.jsonField variableStart "handlers" with
  | .ok handlers =>
      .ok (["domain_separator", "tenant_separator", "enable_email_username",
        "mask_user_info_in_logs"].flatMap (env.textField variableStart) ++ handlers)
  | .error e => .error e

def load (env : Environment) (keywords : Json.Members := []) :
    Except Rejection IdentitySettings :=
  match environmentFields env with
  | .ok raw => (ofFields (Json.overlayMembers raw keywords)).mapError .invalid
  | .error e => .error e

/-- The settings of a handler, the defaults where none are configured. -/
def handler (s : IdentitySettings) (name : String) : HandlerSettings :=
  (Fields.get? (.whole name) s.handlers).getD {}

end IdentitySettings

end Principal.Settings
