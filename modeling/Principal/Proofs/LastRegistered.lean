import Principal.Proofs.History
import Principal.Proofs.Registration

/-!
# What was registered last

Directories in memory answer from the history of their registrations, wherever look-ups come in
between: each index gives what was registered last under the key that it is asked for, and what a
directory was made with counts as registered first. A store is one thing, however many tenants it is
registered for, so a user added to it is found through all of them.
-/

namespace Principal.Directory

open Username

/-- A question to one of the directories. A user is looked up in the store of a name, or in the one
registered for a tenant. -/
inductive Query where
  | tenantDomain (organization : String)
  | tenantId (domain : String)
  | userStore (tenant : Int)
  | user (store userId : String) (storeDomain : Option String)
  | userOf (tenant : Int) (userId : String) (storeDomain : Option String)
  | userId (username : String) (tenantDomain storeDomain : Option String)
deriving DecidableEq, Repr

inductive Found where
  | domain (domain : String)
  | tenant (tenant : Int)
  | store (name? : Option String)
  | user (user? : Option StoredUser)
  | userId (userId? : Option String)
deriving DecidableEq, Repr

def answer (d : Directory) : Query → Except Failure Found
  | .tenantDomain organization => (d.organizations.tenantDomain organization).map .domain
  | .tenantId domain => (d.tenants.tenantId domain).map .tenant
  | .userStore tenant => (d.stores.nameOf tenant).map .store
  | .user store userId storeDomain => .ok (.user ((d.stores.users store).find? userId storeDomain))
  | .userOf tenant userId storeDomain =>
      match d.collaborators.userStore tenant with
      | .error e => .error e
      | .ok none => .ok (.user none)
      | .ok (some store) => (store userId storeDomain).map .user
  | .userId username tenantDomain storeDomain =>
      .ok (.userId (d.userIds?.bind (·.find? username tenantDomain storeDomain)))

inductive Operation where
  | register (registration : Registration)
  | ask (query : Query)
deriving DecidableEq, Repr

/-- The answers to the questions among the operations. -/
def serve : Directory → List Operation → List (Except Failure Found)
  | _, [] => []
  | d, .register registration :: rest => serve (d.register registration) rest
  | d, .ask query :: rest => d.answer query :: serve d rest

/-- A store of a name with the users that it starts with. -/
def Stores.putUsers (s : Stores) (store : String × List StoredUser) : Stores :=
  s.put store.1 (.ofList store.2)

/-- The users that a store starts with as registrations. -/
def Registration.ofStore (store : String × List StoredUser) : List Registration :=
  store.2.map (.user store.1)

/-- What the directories are made with: mappings, the users that each store starts with, and the
separator of usernames. -/
structure Contents where
  organizations : List (String × String) := []
  tenants : List (String × Int) := []
  stores : List (String × List StoredUser) := []
  registry : List (Int × String) := []
  separator : String := Username.defaultDomainSeparator
deriving DecidableEq, Repr

namespace Contents

variable (c : Contents)

def directory : Directory where
  organizations := .ofPairs c.organizations
  tenants := .ofPairs c.tenants
  stores :=
    (Fields.ofPairs c.registry).foldl (fun s (tenant, name) => s.register tenant name)
      ((Fields.ofPairs c.stores).foldl Stores.putUsers {})
  userIds? := some { separator := c.separator }

/-- The contents as registrations, in the order of the mappings. -/
def registrations : List Registration :=
  (Fields.ofPairs c.organizations).map (fun entry => .organization entry.1 entry.2) ++
    (Fields.ofPairs c.tenants).map (fun entry => .tenant entry.1 entry.2) ++
    (Fields.ofPairs c.stores).flatMap Registration.ofStore ++
    (Fields.ofPairs c.registry).map (fun entry => .store entry.1 entry.2)

end Contents

/-- The domain that is registered for the very organization. -/
def domainOf? (organization : String) : Registration → Option String
  | .organization other domain => if other = organization then some domain else none
  | _ => none

/-- The tenant that is registered under a domain of the same folding. -/
def tenantOf? (domain : String) : Registration → Option Int
  | .tenant other tenant => if foldCase other = foldCase domain then some tenant else none
  | _ => none

/-- The store that is registered for the tenant. -/
def storeOf? (tenant : Int) : Registration → Option String
  | .store other name => if other = tenant then some name else none
  | _ => none

/-- The user that is added to the store under the very user id. -/
def userOf? (store userId : String) : Registration → Option StoredUser
  | .user name user => if name = store ∧ user.userId = userId then some user else none
  | _ => none

/-- The user id that is registered for a tenant and a qualified username of the same foldings. -/
def userIdOf? (separator username : String) (tenantDomain storeDomain : Option String) :
    Registration → Option String
  | .userId userId name tenant domain =>
      if foldCase (tenant.getD "") = foldCase (tenantDomain.getD "") ∧
          foldCase (qualify name domain separator) =
            foldCase (qualify username storeDomain separator) then some userId
      else none
  | _ => none

section Recollection

variable (separator : String) (history : List Registration)

/-- The user added last to a store, if it is in the store domain asked for; a user without a domain
is in the empty one. -/
def recollectUser (store userId : String) (storeDomain : Option String) : Option StoredUser :=
  (lastTelling (userOf? store userId) history).filter fun user =>
    storeDomain.all fun domain => foldCase (user.storeDomain.getD "") = foldCase domain

/-- The answer that a history of registrations gives to a question. -/
def recollect : Query → Except Failure Found
  | .tenantDomain organization =>
      match lastTelling (domainOf? organization) history with
      | some domain => .ok (.domain domain)
      | none =>
          .error (.because .organization ("Organization not found: " ++ organization)
            (.plain .key organization))
  | .tenantId domain =>
      match lastTelling (tenantOf? domain) history with
      | some tenant => .ok (.tenant tenant)
      | none =>
          .error (.because .organization ("Tenant not found: " ++ domain)
            (.plain .key (foldCase domain)))
  | .userStore tenant =>
      if tenant < 0 then .error (.plain .userStore ("Invalid tenant id: " ++ toString tenant))
      else .ok (.store (lastTelling (storeOf? tenant) history))
  | .user store userId storeDomain => .ok (.user (recollectUser history store userId storeDomain))
  | .userOf tenant userId storeDomain =>
      if tenant < 0 then .error (.plain .userStore ("Invalid tenant id: " ++ toString tenant))
      else
        .ok (.user ((lastTelling (storeOf? tenant) history).bind fun store =>
          recollectUser history store userId storeDomain))
  | .userId username tenantDomain storeDomain =>
      .ok (.userId
        (lastTelling (userIdOf? separator username tenantDomain storeDomain) history))

/-- The answers that the registrations up to each question give. -/
def recollected : List Registration → List Operation → List (Except Failure Found)
  | _, [] => []
  | history, .register registration :: rest => recollected (history ++ [registration]) rest
  | history, .ask query :: rest => recollect separator history query :: recollected history rest

end Recollection

/-- Every index of the directories finds what was registered last. -/
structure Reflects (d : Directory) (separator : String) (history : List Registration) : Prop where
  domains : ∀ organization,
    Index.find? organization d.organizations.domains =
      lastTelling (domainOf? organization) history
  tenants : ∀ domain,
    Index.find? (foldCase domain) d.tenants.ids = lastTelling (tenantOf? domain) history
  stores : ∀ tenant,
    Index.find? tenant d.stores.registered = lastTelling (storeOf? tenant) history
  users : ∀ store userId,
    Index.find? userId (d.stores.users store).users = lastTelling (userOf? store userId) history
  userIds : ∃ u, d.userIds? = some u ∧ u.separator = separator ∧
    ∀ username tenantDomain storeDomain, u.find? username tenantDomain storeDomain =
      lastTelling (userIdOf? separator username tenantDomain storeDomain) history

variable {d : Directory} {separator : String} {history : List Registration}

theorem Stores.users_put (s : Stores) (name store : String) (users : Users) :
    (s.put name users).users store = if name = store then users else s.users store := by
  unfold Stores.users Stores.put
  rw [Index.find?_insert]
  split <;> rfl

/-- One more registration is the last one of its key, and leaves the other keys as they were. -/
theorem Reflects.register (h : d.Reflects separator history) (r : Registration) :
    (d.register r).Reflects separator (history ++ [r]) where
  domains organization := by
    rw [lastTelling_concat, ← h.domains]
    cases r with
    | organization other domain => exact Index.find?_insert other organization domain _
    | _ => exact Option.none_or.symm
  tenants domain := by
    rw [lastTelling_concat, ← h.tenants]
    cases r with
    | tenant other tenant => exact Index.find?_insert (foldCase other) (foldCase domain) tenant _
    | _ => exact Option.none_or.symm
  stores tenant := by
    rw [lastTelling_concat, ← h.stores]
    cases r with
    | store other name => exact Index.find?_insert other tenant name _
    | _ => exact Option.none_or.symm
  users store userId := by
    rw [lastTelling_concat, ← h.users]
    cases r with
    | user name user =>
        change Index.find? userId ((d.stores.put name _).users store).users = _
        rw [Stores.users_put]
        by_cases hn : name = store
        · subst hn
          rw [if_pos rfl]
          refine (Index.find?_insert user.userId userId user _).trans ?_
          simp only [userOf?, true_and]
        · simp only [userOf?, hn, false_and, if_false, Option.none_or]
    | _ => exact Option.none_or.symm
  userIds := by
    obtain ⟨u, hu, hs, hfind⟩ := h.userIds
    cases r with
    | userId userId name tenant domain =>
        refine ⟨u.register userId name tenant domain, ?_, hs, ?_⟩
        · change d.userIds?.map _ = _
          rw [hu]
          rfl
        · intro username tenantDomain storeDomain
          rw [lastTelling_concat, ← hfind, UserIds.find?_register]
          simp only [UserIds.key, hs, Prod.mk.injEq, userIdOf?]
    | _ =>
        refine ⟨u, hu, hs, fun username tenantDomain storeDomain => ?_⟩
        rw [lastTelling_concat, ← hfind]
        exact Option.none_or.symm

theorem Reflects.registered (h : d.Reflects separator history) (more : List Registration) :
    (d.registered more).Reflects separator (history ++ more) := by
  induction more generalizing d history with
  | nil => rwa [List.append_nil]
  | cons r rest ih =>
      rw [← List.singleton_append, ← List.append_assoc]
      exact ih (h.register r)

section Contents

/-- Registrations that fill one part of the directories may be made before it is put in. -/
theorem Reflects.foldl_part {α σ : Type} (part : σ → Directory) (fill : σ → α → σ)
    (registration : α → Registration)
    (h : ∀ s a, (part s).register (registration a) = part (fill s a)) {s : σ}
    (hs : (part s).Reflects separator history) (l : List α) :
    (part (l.foldl fill s)).Reflects separator (history ++ l.map registration) := by
  have hpart : (part s).registered (l.map registration) = part (l.foldl fill s) := by
    unfold Directory.registered
    rw [List.foldl_map]
    exact List.foldl_hom part h
  rw [← hpart]
  exact hs.registered _

theorem Users.find?_foldl_add (s : Users) (users : List StoredUser) (userId : String) :
    Index.find? userId (users.foldl add s).users =
      (lastTelling (fun user : StoredUser => if user.userId = userId then some user else none)
        users).or (Index.find? userId s.users) := by
  induction users generalizing s with
  | nil => rfl
  | cons user rest ih =>
      rw [List.foldl_cons, ih, lastTelling_cons, Option.or_assoc]
      congr 1
      exact Index.find?_insert user.userId userId user s.users

/-- What a store starts with is silent on anything but its users. -/
theorem lastTelling_append_ofStore {β : Type} {tells? : Registration → Option β}
    {store : String × List StoredUser} (h : ∀ user, tells? (.user store.1 user) = none)
    (history : List Registration) :
    lastTelling tells? (history ++ Registration.ofStore store) = lastTelling tells? history := by
  have hsilent : lastTelling tells? (Registration.ofStore store) = none := by
    rw [lastTelling_eq_none_iff, Registration.ofStore, List.forall_mem_map]
    exact fun user _ => h user
  rw [lastTelling_append, hsilent, Option.none_or]

/-- A store that has not been spoken of may start with users, as if they were added to it. -/
theorem Reflects.putUsers (h : d.Reflects separator history) {store : String × List StoredUser}
    (hfresh : ∀ user, .user store.1 user ∉ history) :
    { d with stores := d.stores.putUsers store }.Reflects separator
      (history ++ Registration.ofStore store) where
  domains organization := by
    rw [lastTelling_append_ofStore fun _ => rfl]
    exact h.domains organization
  tenants domain := by
    rw [lastTelling_append_ofStore fun _ => rfl]
    exact h.tenants domain
  stores tenant := by
    rw [lastTelling_append_ofStore fun _ => rfl]
    exact h.stores tenant
  users name userId := by
    rw [Stores.putUsers, Stores.users_put]
    by_cases hn : store.1 = name
    · subst hn
      have hnone : lastTelling (userOf? store.1 userId) history = none := by
        refine (lastTelling_eq_none_iff _).2 fun r hr => ?_
        cases r with
        | user other user =>
            refine if_neg fun hsame => hfresh user ?_
            rwa [← hsame.1]
        | _ => rfl
      rw [if_pos rfl, lastTelling_append, hnone, Registration.ofStore, lastTelling_map,
        Users.ofList, Users.find?_foldl_add]
      congr 2
      funext user
      simp only [Function.comp, userOf?, true_and]
    · rw [if_neg hn, lastTelling_append_ofStore fun _ => if_neg fun hsame => hn hsame.1]
      exact h.users name userId
  userIds := by
    obtain ⟨u, hu, hs, hfind⟩ := h.userIds
    refine ⟨u, hu, hs, fun username tenantDomain storeDomain => ?_⟩
    rw [lastTelling_append_ofStore fun _ => rfl]
    exact hfind username tenantDomain storeDomain

theorem Reflects.foldl_putUsers (h : d.Reflects separator history)
    {stores : List (String × List StoredUser)} (hnodup : (Fields.keys stores).Nodup)
    (hfresh : ∀ name ∈ Fields.keys stores, ∀ user, .user name user ∉ history) :
    { d with stores := stores.foldl Stores.putUsers d.stores }.Reflects separator
      (history ++ stores.flatMap Registration.ofStore) := by
  induction stores generalizing d history with
  | nil => simpa using h
  | cons store rest ih =>
      obtain ⟨hnew, hnodup⟩ := List.nodup_cons.1 hnodup
      have hput := h.putUsers (hfresh store.1 List.mem_cons_self)
      rw [List.flatMap_cons, ← List.append_assoc]
      refine ih hput hnodup fun name hname user hmem => ?_
      -- A later store has another name than the one that has just been put.
      rcases List.mem_append.1 hmem with hmem | hmem
      · exact hfresh name (List.mem_cons_of_mem _ hname) user hmem
      · obtain ⟨_, _, he⟩ := List.mem_map.1 hmem
        cases he
        exact hnew hname

/-- Directories answer from their contents as if these had been registered one by one. -/
theorem Contents.reflects (c : Contents) :
    c.directory.Reflects c.separator c.registrations := by
  let userIds? : Option UserIds := some { separator := c.separator }
  have hstart : Reflects { userIds? } c.separator [] :=
    ⟨fun _ => rfl, fun _ => rfl, fun _ => rfl, fun _ _ => rfl, _, rfl, rfl, fun _ _ _ => rfl⟩
  have horganizations :
      Reflects { organizations := .ofPairs c.organizations, userIds? } c.separator _ :=
    hstart.foldl_part (fun organizations => { organizations, userIds? }) _
      (fun entry => .organization entry.1 entry.2) (by intros; rfl)
      (Fields.ofPairs c.organizations)
  have htenants :
      Reflects
        { organizations := .ofPairs c.organizations, tenants := .ofPairs c.tenants, userIds? }
        c.separator _ :=
    horganizations.foldl_part
      (fun tenants => { organizations := .ofPairs c.organizations, tenants, userIds? }) _
      (fun entry => .tenant entry.1 entry.2) (by intros; rfl) (Fields.ofPairs c.tenants)
  have hstores := htenants.foldl_putUsers (Fields.nodup_keys_ofPairs c.stores) (by simp)
  exact hstores.foldl_part
    (fun stores =>
      { organizations := .ofPairs c.organizations, tenants := .ofPairs c.tenants, stores
        userIds? }) _
    (fun entry => .store entry.1 entry.2) (by intros; rfl) (Fields.ofPairs c.registry)

end Contents

section Answers

variable (h : d.Reflects separator history)

include h

theorem Reflects.find?_users (store userId : String) (storeDomain : Option String) :
    (d.stores.users store).find? userId storeDomain =
      recollectUser history store userId storeDomain := by
  unfold Users.find? recollectUser
  rw [h.users]
  congr 1
  funext user
  cases storeDomain <;> rfl

theorem Reflects.nameOf (tenant : Int) :
    d.stores.nameOf tenant =
      if tenant < 0 then .error (.plain .userStore ("Invalid tenant id: " ++ toString tenant))
      else .ok (lastTelling (storeOf? tenant) history) := by
  rw [Stores.nameOf, h.stores]
  rfl

theorem Reflects.answer_eq (query : Query) :
    d.answer query = recollect separator history query := by
  cases query with
  | tenantDomain organization =>
      simp only [answer, recollect, Organizations.tenantDomain, h.domains]
      cases lastTelling (domainOf? organization) history <;> rfl
  | tenantId domain =>
      simp only [answer, recollect, Tenants.tenantId, h.tenants]
      cases lastTelling (tenantOf? domain) history <;> rfl
  | userStore tenant =>
      simp only [answer, recollect, h.nameOf]
      split <;> rfl
  | user store userId storeDomain => simp only [answer, recollect, h.find?_users]
  | userOf tenant userId storeDomain =>
      simp only [answer, recollect, collaborators, h.nameOf]
      by_cases ht : tenant < 0
      · simp only [if_pos ht, Except.map]
      · simp only [if_neg ht, Except.map]
        cases lastTelling (storeOf? tenant) history with
        | none => rfl
        | some store => simp only [Option.map_some, Option.bind_some, userStore, h.find?_users]
  | userId username tenantDomain storeDomain =>
      obtain ⟨u, hu, _, hfind⟩ := h.userIds
      simp only [answer, recollect, hu, Option.bind_some, hfind]

theorem Reflects.serve_eq (operations : List Operation) :
    d.serve operations = recollected separator history operations := by
  induction operations generalizing d history with
  | nil => rfl
  | cons operation rest ih =>
      cases operation with
      | register r => exact ih (h.register r)
      | ask query =>
          change d.answer query :: d.serve rest = _
          rw [h.answer_eq, ih h]
          rfl

end Answers

/-- Every question to the directories is answered from the contents they were made with and the
registrations since, of which the last under its key counts. -/
theorem serve_recollects (contents : Contents) (operations : List Operation) :
    contents.directory.serve operations =
      recollected contents.separator contents.registrations operations :=
  contents.reflects.serve_eq operations

-- A domain that is written twice keeps its first place in a mapping, so the other one of the same
-- folding counts as registered last.
example :
    ({ tenants := [("ACME.com", 1), ("acme.com", 2), ("ACME.com", 3)] } : Contents).directory.serve
      [.ask (.tenantId "Acme.COM")] = [.ok (.tenant 2)] := by
  decide +kernel

end Principal.Directory
