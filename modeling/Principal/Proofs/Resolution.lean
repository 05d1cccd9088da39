import Principal.Proofs.Course
import Principal.Resolver

/-!
# The course of a resolution

The resolver's decisions as courses, and the proof that its computations are these courses followed
by its own probe. No look-up notes an event, so recovering from a look-up never swallows a failure
of the probe.
-/

namespace Principal

namespace Collaborators

variable (c : Collaborators)

/-- The collaborator asked by a call raises a failure. A user is asked for in the store of some
tenant. -/
def Raises : Call → Failure → Prop
  | .tenantDomain organization, e => c.tenantDomain organization = .error e
  | .tenantId domain, e => c.tenantId domain = .error e
  | .userStore tenant, e => c.userStore tenant = .error e
  | .user userId storeDomain, e =>
      ∃ tenant store, c.userStore tenant = .ok (some store) ∧ store userId storeDomain = .error e
  | .userId username tenantDomain storeDomain, e =>
      ∃ find, c.userId? = some find ∧ find username tenantDomain storeDomain = .error e

def Recoverable : Prop :=
  ∀ call e, c.Raises call e → e.isRecoverable = true

def Interrupts (call : Call) (e : Failure) : Prop :=
  c.Raises call e ∧ e.isRecoverable = false

end Collaborators

namespace Resolver

variable (r : Resolver)

def usernameCourse (identity : Identity) (request : RequestContext) (d : Decision) :
    Course Decision :=
  if sameTenant identity.tenantDomain request.tenantDomain then do
    let username := Username.qualify identity.username identity.storeDomain r.domainSeparator
    Course.note (.usernamePropagated username identity.tenantDomain)
    return d.set .username (some username)
  else do
    Course.note (.crossTenantIdentity identity.tenantDomain request.tenantDomain)
    return d

def lookUpCourse (identity : Identity) : Course (Option String) :=
  match r.collaborators.userId? with
  | none => return none
  | some find =>
      Course.ask (.userId identity.username identity.tenantDomain identity.storeDomain)
        (find identity.username identity.tenantDomain identity.storeDomain)

def findCourse (identity : Identity) : Course (Option String) :=
  if identity.capabilities.organizationUser then return some (r.surrogate identity.username)
  else
    match nonempty? identity.capabilities.userId with
    | some userId => return some userId
    | none => r.lookUpCourse identity

def userIdCourse (identity : Identity) (d : Decision) : Course Decision := do
  match userIdOf identity (← (r.findCourse identity).caught) with
  | .ok userId =>
      Course.note (.userIdPropagated userId identity.capabilities.organizationUser)
      return d.set .userId (some userId)
  | .error e =>
      Course.note (.userIdUnresolved identity.username e) true
      return d.diagnose e

def locateCourse (organization : String) : Course (String × Int) := do
  let domain ← Course.ask (.tenantDomain organization) (r.collaborators.tenantDomain organization)
  let tenant ← Course.ask (.tenantId domain) (r.collaborators.tenantId domain)
  return (domain, tenant)

def storeCourse (store : UserStore) (domain : String) (tenant : Int) (userId : String) :
    Course Finding := do
  match ← (Course.ask (.user userId none) (store userId none)).caught with
  | .error e =>
      Course.note (.userStoreUnreadable tenant (storeUnreadable tenant e)) true
      return .failed (storeUnreadable tenant e)
  | .ok user =>
      match nonempty? (user.bind (·.username)) with
      | none =>
          Course.note (.realUsernameMissing userId tenant)
          return .missing
      | some username =>
          Course.note (.realUsernameFound userId username domain)
          return .found username

def tenantCourse (domain : String) (tenant : Int) (userId : Option String) : Course Finding := do
  match ← (Course.ask (.userStore tenant) (r.collaborators.userStore tenant)).caught with
  | .error e =>
      Course.note (.userStoreUnreadable tenant (storeUnavailable tenant e)) true
      return .failed (storeUnavailable tenant e)
  | .ok none =>
      Course.note (.userStoreUnavailable tenant)
      return .missing
  | .ok (some store) =>
      match nonempty? userId with
      | none => return .missing
      | some userId => storeCourse store domain tenant userId

def searchCourse (resident userId : Option String) : Course Finding :=
  match nonempty? resident with
  | none => do
      Course.note (.organizationUnresolved "" noResidentOrganization)
      return .failed noResidentOrganization
  | some organization => do
      match ← (r.locateCourse organization).caught with
      | .error e =>
          Course.note (.organizationUnresolved organization (tenantUnresolved organization e)) true
          return .failed (tenantUnresolved organization e)
      | .ok (domain, tenant) => r.tenantCourse domain tenant userId

def organizationCourse (identity : Identity) (request : RequestContext) (d : Decision) :
    Course Decision :=
  let capabilities := identity.capabilities
  match nonempty? capabilities.accessingOrganization with
  | none => return d
  | some accessing => do
      let d := d.set .residentOrganization capabilities.residentOrganization
      Course.note
        (.residentOrganizationPropagated capabilities.residentOrganization accessing)
      if capabilities.federated then
        let userId := (d.update.get? .userId).getD request.userId
        let finding ← r.searchCourse capabilities.residentOrganization userId
        return finding.settle d
      else return d

/-- The course of all decisions of a resolution. -/
def course (identity : Identity) (request : RequestContext) : Course Decision := do
  let d ← r.usernameCourse identity request {}
  let d ← r.userIdCourse identity d
  r.organizationCourse identity request d

theorem decideUsername_eq_follow (identity : Identity) (request : RequestContext) (d : Decision) :
    r.decideUsername identity request d = (r.usernameCourse identity request d).follow r.probe := by
  unfold decideUsername usernameCourse
  cases sameTenant identity.tenantDomain request.tenantDomain <;> simp

theorem lookUpUserId_eq_follow (identity : Identity) :
    r.lookUpUserId identity = (r.lookUpCourse identity).follow r.probe := by
  unfold lookUpUserId lookUpCourse
  cases r.collaborators.userId? <;> simp

theorem findUserId_eq_follow (identity : Identity) :
    r.findUserId identity = (r.findCourse identity).follow r.probe := by
  unfold findUserId findCourse
  rw [lookUpUserId_eq_follow]
  cases identity.capabilities.organizationUser
  · cases nonempty? identity.capabilities.userId <;> simp
  · simp

theorem keeps_findCourse (identity : Identity) :
    (r.findCourse identity).Keeps (fun _ => False) r.collaborators.Raises := by
  unfold findCourse lookUpCourse
  cases identity.capabilities.organizationUser with
  | true => exact Course.keeps_pure _
  | false =>
      cases nonempty? identity.capabilities.userId with
      | some userId => exact Course.keeps_pure _
      | none =>
          cases hf : r.collaborators.userId? with
          | none => exact Course.keeps_pure _
          | some find => exact Course.keeps_ask fun e he => ⟨find, hf, he⟩

/-- A search for a user id notes nothing. -/
theorem events_findCourse (identity : Identity) :
    Act.events (r.findCourse identity).caught.acts = [] :=
  List.eq_nil_iff_forall_not_mem.2 (r.keeps_findCourse identity).notes

theorem decideUserId_eq_follow (identity : Identity) (d : Decision) :
    r.decideUserId identity d = (r.userIdCourse identity d).follow r.probe := by
  unfold decideUserId userIdCourse
  rw [Course.follow_bind, Course.follow_caught (r.keeps_findCourse identity).notes,
    ← r.findUserId_eq_follow]
  congr 1
  funext found
  cases userIdOf identity found <;> simp

theorem locate_eq_follow (organization : String) :
    r.locate organization = (r.locateCourse organization).follow r.probe := by
  simp [locate, locateCourse]

theorem keeps_locateCourse (organization : String) :
    (r.locateCourse organization).Keeps (fun _ => False) r.collaborators.Raises := by
  apply (Course.keeps_ask fun _ he => he).bind
  intro domain _
  apply (Course.keeps_ask fun _ he => he).bind
  intro tenant _
  exact Course.keeps_pure _

/-- Nor does asking which tenant hosts an organization. -/
theorem events_locateCourse (organization : String) :
    Act.events (r.locateCourse organization).caught.acts = [] :=
  List.eq_nil_iff_forall_not_mem.2 (r.keeps_locateCourse organization).notes

theorem searchStore_eq_follow (store : UserStore) (domain : String) (tenant : Int)
    (userId : String) :
    r.searchStore store domain tenant userId =
      (storeCourse store domain tenant userId).follow r.probe := by
  unfold searchStore storeCourse
  rw [Course.follow_bind, Course.follow_caught_ask]
  congr 1
  funext found
  cases found with
  | error e => simp
  | ok user => cases h : nonempty? (user.bind (·.username)) <;> simp [h]

theorem searchTenant_eq_follow (domain : String) (tenant : Int) (userId : Option String) :
    r.searchTenant domain tenant userId = (r.tenantCourse domain tenant userId).follow r.probe := by
  unfold searchTenant tenantCourse
  rw [Course.follow_bind, Course.follow_caught_ask]
  congr 1
  funext found
  match found with
  | .error e => simp
  | .ok none => simp
  | .ok (some store) => cases nonempty? userId <;> simp [searchStore_eq_follow]

theorem searchOrganization_eq_follow (resident userId : Option String) :
    r.searchOrganization resident userId = (r.searchCourse resident userId).follow r.probe := by
  unfold searchOrganization searchCourse
  cases nonempty? resident with
  | none => simp
  | some organization =>
      simp only [Course.follow_bind, Course.follow_caught (r.keeps_locateCourse organization).notes,
        ← r.locate_eq_follow]
      congr 1
      funext found
      cases found with
      | error e => simp
      | ok place => exact r.searchTenant_eq_follow _ _ _

theorem decideOrganization_eq_follow (identity : Identity) (request : RequestContext)
    (d : Decision) :
    r.decideOrganization identity request d =
      (r.organizationCourse identity request d).follow r.probe := by
  unfold decideOrganization organizationCourse
  cases ha : nonempty? identity.capabilities.accessingOrganization with
  | none => simp [ha]
  | some accessing =>
      cases hf : identity.capabilities.federated <;> simp [ha, hf, searchOrganization_eq_follow]

/-- The resolver decides by following its course. -/
theorem decision_eq_follow (identity : Identity) (request : RequestContext) :
    r.decision identity request = (r.course identity request).follow r.probe := by
  simp only [decision, course, Course.follow_bind, decideUsername_eq_follow,
    decideUserId_eq_follow, decideOrganization_eq_follow]

end Resolver

end Principal
