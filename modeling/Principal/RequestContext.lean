import Principal.Failure

/-!
# Request contexts

The identity that a request runs as, and the update in which one resolution collects what it will
write there. A field is undecided until it is set, and an absent value is a decision too. Applying
an update writes the decided fields and nothing else, and names those whose value changed.
-/

namespace Principal

structure RequestContext where
  tenantDomain : Option String := none
  username : Option String := none
  userId : Option String := none
  residentOrganization : Option String := none
deriving DecidableEq, Repr

namespace RequestContext

/-- The fields that an update may write, in the order in which they are written. -/
inductive Field where
  | username
  | userId
  | residentOrganization
deriving DecidableEq, Repr

namespace Field

def all : List Field :=
  [username, userId, residentOrganization]

def name : Field → String
  | username => "username"
  | userId => "user_id"
  | residentOrganization => "resident_organization_id"

def ofName? (s : String) : Option Field :=
  all.find? (·.name == s)

theorem mem_all (field : Field) : field ∈ all := by
  cases field <;> simp [all]

theorem ofName?_name (field : Field) : ofName? field.name = some field := by
  cases field <;> rfl

end Field

def get (c : RequestContext) : Field → Option String
  | .username => c.username
  | .userId => c.userId
  | .residentOrganization => c.residentOrganization

def set (c : RequestContext) (field : Field) (value : Option String) : RequestContext :=
  match field with
  | .username => { c with username := value }
  | .userId => { c with userId := value }
  | .residentOrganization => { c with residentOrganization := value }

/-- Writes a field by its name, the tenant domain included; other names are no fields. -/
def setNamed (c : RequestContext) (name : String) (value : Option String) : RequestContext :=
  if name = "tenant_domain" then { c with tenantDomain := value }
  else
    match Field.ofName? name with
    | some field => c.set field value
    | none => c

@[simp] theorem tenantDomain_set (c : RequestContext) (field : Field) (value : Option String) :
    (c.set field value).tenantDomain = c.tenantDomain := by
  cases field <;> rfl

theorem get_set (c : RequestContext) (field other : Field) (value : Option String) :
    (c.set field value).get other = if other = field then value else c.get other := by
  cases field <;> cases other <;> rfl

end RequestContext

open RequestContext (Field)

structure Update where
  username : Option (Option String) := none
  userId : Option (Option String) := none
  residentOrganization : Option (Option String) := none
deriving DecidableEq, Repr

namespace Update

variable (u : Update)

/-- The value decided for a field, if any. -/
def get? : Field → Option (Option String)
  | .username => u.username
  | .userId => u.userId
  | .residentOrganization => u.residentOrganization

def set (field : Field) (value : Option String) : Update :=
  match field with
  | .username => { u with username := some value }
  | .userId => { u with userId := some value }
  | .residentOrganization => { u with residentOrganization := some value }

theorem get?_set (field other : Field) (value : Option String) :
    (u.set field value).get? other = if other = field then some value else u.get? other := by
  cases field <;> cases other <;> rfl

def decided : List (Field × Option String) :=
  Field.all.filterMap fun field => (u.get? field).map fun value => (field, value)

def isEmpty : Bool :=
  u.decided.isEmpty

def setNamed (name : String) (value : Option String) : Except Failure Update :=
  match Field.ofName? name with
  | some field => .ok (u.set field value)
  | none => .error (.plain .key ("RequestContext field cannot be updated: " ++ name))

/-- The decision on the field of a name; a name that is no field is a missing key. -/
def getNamed? (name : String) : Except Failure (Option (Option String)) :=
  match Field.ofName? name with
  | some field => .ok (u.get? field)
  | none => .error (.plain .key name)

end Update

namespace RequestContext

/-- Writes one decided field and records it if its value changed. -/
def write (c : RequestContext) (field : Field) (value : Option String) :
    RequestContext × List Field :=
  if c.get field = value then (c, []) else (c.set field value, [field])

/-- The context after the update, and the fields whose value changed. -/
def apply (c : RequestContext) (u : Update) : RequestContext × List Field :=
  u.decided.foldl
    (fun (c, changed) (field, value) =>
      let (c, more) := c.write field value
      (c, changed ++ more))
    (c, [])

end RequestContext

end Principal
