import Principal.Json.Writer
import Principal.Settings.Identity
import Principal.Settings.Service

/-!
# The catalogue of settings

Groups of settings described for their users: every setting with the variable it is read from,
its type, its default and what it is for. The catalogue of the service is written as indented
JSON.
-/

namespace Principal

structure Setting where
  name : String
  type : String
  default? : Option Json
  description : String := ""

namespace Setting

/-- A type with parameters is called by what stands before them, a union by all of its text. -/
def typeName (type : String) : String :=
  if '|' ∈ type.toList then type else String.ofList (type.toList.takeWhile (· ≠ '['))

/-- Flags, lists and mappings are shown as they are, any other default as text. -/
def shown : Json → Json
  | .int n => .str (toString n)
  | .float x => .str x.text
  | value => value

def environmentName (s : Setting) (start : String) : String :=
  start ++ upperCase s.name

def toJson (s : Setting) (start : String) : Json :=
  .obj [("env_var", .str (s.environmentName start)), ("type", .str (typeName s.type)),
    ("default", (s.default?.map shown).getD .null), ("required", .bool s.default?.isNone),
    ("description", .str s.description)]

end Setting

structure SettingGroup where
  name : String
  variableStart : String := ""
  doc : String := ""
  settings : List Setting := []

namespace SettingGroup

def toJson (g : SettingGroup) : Json :=
  .obj [("class_name", .str g.name), ("prefix", .str g.variableStart), ("doc", .str g.doc),
    ("properties", .arr (g.settings.map (·.toJson g.variableStart)))]

open Settings

def service : SettingGroup :=
  let default : ServiceSettings := {}
  { name := "Settings"
    variableStart := ServiceSettings.variableStart
    doc := "Main application settings aggregating all configuration sections."
    settings := [
      { name := "app_name", type := "str", default? := some (.str default.appName)
        description := "Application name" },
      { name := "log_level", type := "str", default? := some (.str default.logLevel)
        description := "Minimum log level" }] }

def identity : SettingGroup :=
  let default : IdentitySettings := {}
  { name := "AuthnSettings"
    variableStart := IdentitySettings.variableStart
    doc := "\n".intercalate [
      "Identity resolution settings.",
      "",
      "    Environment variables:",
      "        AUTH_SERVICE_AUTHN_DOMAIN_SEPARATOR: User store domain separator (default: /)",
      "        AUTH_SERVICE_AUTHN_TENANT_SEPARATOR: Tenant domain separator (default: @)",
      "        AUTH_SERVICE_AUTHN_ENABLE_EMAIL_USERNAME: Usernames may be email",
      "            addresses (default: false)",
      "        AUTH_SERVICE_AUTHN_MASK_USER_INFO_IN_LOGS: Mask usernames and user ids",
      "            in log events (default: false)",
      "        AUTH_SERVICE_AUTHN_HANDLERS: JSON object of handler name to",
      "            \x7b\"priority\": int, \"enabled\": bool\x7d (default: \x7b\x7d)",
      "    "]
    settings := [
      { name := "domain_separator", type := "str", default? := some (.str default.domainSeparator)
        description := "Separator between user store domain and username" },
      { name := "tenant_separator", type := "str", default? := some (.str default.tenantSeparator)
        description := "Separator between username and tenant domain" },
      { name := "enable_email_username", type := "bool"
        default? := some (.bool default.mailAddresses)
        description := "Whether usernames may be email addresses" },
      { name := "mask_user_info_in_logs", type := "bool", default? := some (.bool default.masked)
        description := "Mask usernames and user ids in log events" },
      { name := "handlers", type := "dict[str, HandlerConfig]", default? := some (.obj [])
        description := "Per-handler priority and enablement" }] }

/-- The groups of the service. -/
def all : List SettingGroup :=
  [service, identity]

def ofName? (name : String) : Option SettingGroup :=
  all.find? (·.name == name)

/-- The text of a catalogue, a member for each group. -/
def render (groups : List SettingGroup) : String :=
  (Json.obj (groups.map fun g => (g.name, g.toJson))).write .indented

/-- What is said once a catalogue has been written to a path. -/
def exportNotice (path : String) : String :=
  "Exported settings to " ++ path ++ "\n"

end SettingGroup

end Principal
