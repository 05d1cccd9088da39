import Principal.Settings.Reading

/-!
# Settings of handlers

The priority and enablement configured for a handler. A priority of -1 stands for none.
-/

namespace Principal.Settings

structure HandlerSettings where
  priority : Int := -1
  enabled : Bool := true
deriving DecidableEq, Repr

namespace HandlerSettings

def leastPriority : Int := -1

def ofMembers (location : List String) (members : Json.Members) : Checked HandlerSettings :=
  let default : HandlerSettings := {}
  let priority := Checked.field members "priority" default.priority fun value =>
    .located (location ++ ["priority"]) (Reading.integerFrom leastPriority value)
  let enabled := Checked.field members "enabled" default.enabled fun value =>
    .located (location ++ ["enabled"]) (Reading.flag value)
  (priority.both enabled).map fun (priority, enabled) => { priority, enabled }

def ofJson (location : List String) : Json → Checked HandlerSettings
  | .obj members => ofMembers location members
  | _ => .error [⟨location, .notHandler⟩]

/-- Every entry is checked, whatever is wrong with the others. A location shows the name of an
entry, which may be ill-formed. -/
def ofEntries (location : List String) :
    List (Json.Text × Json) → Checked (Fields HandlerSettings Json.Text)
  | [] => .ok []
  | (name, value) :: rest =>
      ((ofJson (location ++ [name.shown]) value).both (ofEntries location rest)).map
        fun (handler, rest) => (name, handler) :: rest

def ofMapping (location : List String) : Json → Checked (Fields HandlerSettings Json.Text)
  | .obj members => ofEntries location members
  | _ => .error [⟨location, .notMapping⟩]

end HandlerSettings

end Principal.Settings
