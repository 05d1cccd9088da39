import Principal.Collaborators
import Principal.Fields
import Principal.Text.CaseFolding

/-!
# Directories in memory

Collaborators kept as indexes, in which the last entry for a key wins. Tenant domains are matched
up to case; a user id is filed under the tenant domain and the username qualified by its store
domain, both up to case. Stores are known by names, so that users added to a store are seen
through every tenant that it is registered for.
-/

namespace Principal

abbrev Index (κ υ : Type) := List (κ × υ)

namespace Index

variable {κ υ : Type} [BEq κ]

def insert (key : κ) (value : υ) (index : Index κ υ) : Index κ υ :=
  (key, value) :: index

def find? (key : κ) (index : Index κ υ) : Option υ :=
  List.lookup key index

theorem find?_insert_self [ReflBEq κ] (key : κ) (value : υ) (index : Index κ υ) :
    find? key (insert key value index) = some value := by
  simp [find?, insert]

theorem find?_insert_of_ne {key other : κ} (value : υ) (index : Index κ υ)
    (h : (other == key) = false) : find? other (insert key value index) = find? other index := by
  simp [find?, insert, List.lookup_cons, h]

theorem find?_insert [LawfulBEq κ] [DecidableEq κ] (key other : κ) (value : υ)
    (index : Index κ υ) :
    find? other (insert key value index) =
      (if key = other then some value else none).or (find? other index) := by
  by_cases h : key = other
  · subst h
    rw [find?_insert_self, if_pos rfl, Option.some_or]
  · rw [find?_insert_of_ne value index (beq_false_of_ne (Ne.symm h)), if_neg h, Option.none_or]

end Index

namespace Directory

structure Organizations where
  domains : Index String String := []

namespace Organizations

def register (o : Organizations) (organization domain : String) : Organizations where
  domains := Index.insert organization domain o.domains

def ofPairs (pairs : List (String × String)) : Organizations :=
  (Fields.ofPairs pairs).foldl (fun o (organization, domain) => o.register organization domain) {}

def notFound (organization : String) : Failure :=
  .because .organization ("Organization not found: " ++ organization) (.plain .key organization)

def tenantDomain (o : Organizations) (organization : String) : Except Failure String :=
  match Index.find? organization o.domains with
  | some domain => .ok domain
  | none => .error (notFound organization)

end Organizations

structure Tenants where
  ids : Index String Int := []

namespace Tenants

def register (t : Tenants) (domain : String) (tenant : Int) : Tenants where
  ids := Index.insert (foldCase domain) tenant t.ids

/-- Registers the pairs in order, once those of the very same domain have become one. -/
def ofPairs (pairs : List (String × Int)) : Tenants :=
  (Fields.ofPairs pairs).foldl (fun t (domain, tenant) => t.register domain tenant) {}

/-- The cause names the key that was looked up. -/
def notFound (domain : String) : Failure :=
  .because .organization ("Tenant not found: " ++ domain) (.plain .key (foldCase domain))

def tenantId (t : Tenants) (domain : String) : Except Failure Int :=
  match Index.find? (foldCase domain) t.ids with
  | some tenant => .ok tenant
  | none => .error (notFound domain)

end Tenants

structure Users where
  users : Index String StoredUser := []

namespace Users

def add (s : Users) (user : StoredUser) : Users where
  users := Index.insert user.userId user s.users

def ofList (users : List StoredUser) : Users :=
  users.foldl add {}

/-- A user without a store domain is in the empty one. -/
def isIn (user : StoredUser) : Option String → Bool
  | none => true
  | some domain => foldCase (user.storeDomain.getD "") == foldCase domain

def find? (s : Users) (userId : String) (storeDomain : Option String) : Option StoredUser :=
  (Index.find? userId s.users).filter (isIn · storeDomain)

end Users

/-- Stores by name, and the names of those registered for tenants. -/
structure Stores where
  named : Index String Users := []
  registered : Index Int String := []

namespace Stores

/-- A store of which nothing has been said is empty. -/
def users (s : Stores) (name : String) : Users :=
  (Index.find? name s.named).getD {}

def put (s : Stores) (name : String) (users : Users) : Stores :=
  { s with named := Index.insert name users s.named }

def add (s : Stores) (name : String) (user : StoredUser) : Stores :=
  s.put name ((s.users name).add user)

def register (s : Stores) (tenant : Int) (name : String) : Stores :=
  { s with registered := Index.insert tenant name s.registered }

def invalidTenant (tenant : Int) : Failure :=
  .plain .userStore ("Invalid tenant id: " ++ toString tenant)

/-- A negative tenant id is refused even if a store is registered for it. -/
def nameOf (s : Stores) (tenant : Int) : Except Failure (Option String) :=
  if tenant < 0 then .error (invalidTenant tenant)
  else .ok (Index.find? tenant s.registered)

end Stores

structure UserIds where
  separator : String := Username.defaultDomainSeparator
  ids : Index (String × String) String := []

namespace UserIds

def key (u : UserIds) (username : String) (tenantDomain storeDomain : Option String) :
    String × String :=
  (foldCase (tenantDomain.getD ""), foldCase (Username.qualify username storeDomain u.separator))

def register (u : UserIds) (userId username : String) (tenantDomain storeDomain : Option String) :
    UserIds :=
  { u with ids := Index.insert (u.key username tenantDomain storeDomain) userId u.ids }

def find? (u : UserIds) (username : String) (tenantDomain storeDomain : Option String) :
    Option String :=
  Index.find? (u.key username tenantDomain storeDomain) u.ids

theorem find?_register (u : UserIds) (userId username username' : String)
    (tenant tenant' domain domain' : Option String) :
    (u.register userId username tenant domain).find? username' tenant' domain' =
      (if u.key username tenant domain = u.key username' tenant' domain' then some userId
        else none).or (u.find? username' tenant' domain') :=
  Index.find?_insert _ _ _ _

end UserIds

end Directory

open Directory in
structure Directory where
  organizations : Organizations := {}
  tenants : Tenants := {}
  stores : Stores := {}
  userIds? : Option UserIds := none

namespace Directory

def userStore (d : Directory) (name : String) : UserStore := fun userId storeDomain =>
  .ok ((d.stores.users name).find? userId storeDomain)

def collaborators (d : Directory) : Collaborators where
  tenantDomain := d.organizations.tenantDomain
  tenantId := d.tenants.tenantId
  userStore tenant := (d.stores.nameOf tenant).map fun name => name.map d.userStore
  userId? := d.userIds?.map fun u username tenantDomain storeDomain =>
    .ok (u.find? username tenantDomain storeDomain)

end Directory

end Principal
