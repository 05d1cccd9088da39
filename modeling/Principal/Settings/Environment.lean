import Principal.Json.Reader
import Principal.Settings.Issue

/-!
# Environments

The variables that settings are read from. Their names are matched without regard to case, and
of several that match the last one counts.
-/

namespace Principal.Settings

abbrev Environment := Fields String

namespace Environment

/-- Lower case as far as it can meet an ASCII name: beside the capital letters of ASCII only the
Kelvin sign has a lower case in ASCII. -/
def lowerChar (c : Char) : Char :=
  if c = '\u212a' then 'k' else c.toLower

def lowerName (s : String) : String :=
  s.map lowerChar

def get? (env : Environment) (name : String) : Option String :=
  (env.reverse.find? fun (key, _) => lowerName key == lowerName name).map (·.2)

def set (env : Environment) (name : String) (value : String) : Environment :=
  Fields.put name value env

def unset (env : Environment) (name : String) : Environment :=
  env.filter fun (key, _) => key ≠ name

/-- A variable that holds a text. -/
def textField (env : Environment) (start name : String) : Json.Members :=
  match env.get? (start ++ name) with
  | some value => [(name, .str value)]
  | none => []

/-- A variable that holds JSON; a null there leaves the setting unset. -/
def jsonField (env : Environment) (start name : String) : Except Rejection Json.Members :=
  match env.get? (start ++ name) with
  | none => .ok []
  | some value =>
      match Json.read value with
      | .error .malformed => .error (.unreadable name)
      | .error .deepArray => .error (.tooDeep "array")
      | .error .deepObject => .error (.tooDeep "object")
      | .ok value => .ok (if value.isNull then [] else [(name, value)])

end Environment

end Principal.Settings
