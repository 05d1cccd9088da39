import Principal.Settings.Environment
import Principal.Settings.Reading
import Principal.Text.Uppercase

/-!
# Settings of the service

The name of the application and the least level that it logs, which is kept in upper case.
-/

namespace Principal.Settings

structure ServiceSettings where
  appName : String := "Auth Service"
  logLevel : String := "INFO"
deriving DecidableEq, Repr

namespace ServiceSettings

def variableStart : String := "AUTH_SERVICE_"

def levels : List String := ["DEBUG", "INFO", "WARNING", "ERROR", "CRITICAL"]

def level (value : Json) : Except Issue String :=
  match Reading.text value with
  | .ok s => if upperCase s ∈ levels then .ok (upperCase s) else .error (.unknownLevel s)
  | .error issue => .error issue

def ofFields (raw : Json.Members) : Checked ServiceSettings :=
  let default : ServiceSettings := {}
  let appName := Checked.field raw "app_name" default.appName fun value =>
    .located ["app_name"] (Reading.text value)
  let logLevel := Checked.field raw "log_level" default.logLevel fun value =>
    .located ["log_level"] (level value)
  (appName.both logLevel).map fun (appName, logLevel) => { appName, logLevel }

def load (env : Environment) (keywords : Json.Members := []) :
    Except Rejection ServiceSettings :=
  let raw := ["app_name", "log_level"].flatMap (env.textField variableStart)
  (ofFields (Json.overlayMembers raw keywords)).mapError .invalid

end ServiceSettings

end Principal.Settings
