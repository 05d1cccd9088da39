import Principal.Proofs.Publishing

/-!
# The published context

What a successful call writes, said from the answers of the collaborators alone: the user id that
an identity has or is found under, the username that a user store knows for it, and the context in
which these take the place of the old values. Empty texts count as none, but for those that are
written as they are.
-/

namespace Principal

/-- The text is given and not empty. -/
def Gives (s : Option String) (t : String) : Prop :=
  s = some t ∧ t ≠ ""

theorem Gives.unique {s : Option String} {a b : String} (h : Gives s a) (h' : Gives s b) : a = b :=
  Option.some.inj (h.1.symm.trans h'.1)

theorem filter_ne_empty (s : Option String) : s.filter (· ≠ "") = nonempty? s := rfl

theorem nonempty?_eq_some_iff {s : Option String} {t : String} :
    nonempty? s = some t ↔ Gives s t := by
  unfold nonempty? Gives
  rw [Option.filter_eq_some_iff, decide_eq_true_eq]

theorem nonempty?_eq_none_iff {s : Option String} : nonempty? s = none ↔ ∀ t, ¬ Gives s t := by
  simp only [← nonempty?_eq_some_iff, Option.eq_none_iff_forall_ne_some, ne_eq]

/-- Both domains are given, neither is empty, and they are equal up to case. -/
def OfOneTenant (identityDomain requestDomain : Option String) : Prop :=
  ∃ a b, Gives identityDomain a ∧ Gives requestDomain b ∧ foldCase a = foldCase b

theorem sameTenant_iff {identityDomain requestDomain : Option String} :
    sameTenant identityDomain requestDomain = true ↔
      OfOneTenant identityDomain requestDomain := by
  unfold OfOneTenant sameTenant
  simp only [← nonempty?_eq_some_iff]
  cases nonempty? identityDomain with
  | none => simp
  | some a => cases nonempty? requestDomain <;> simp

instance (identityDomain requestDomain : Option String) :
    Decidable (OfOneTenant identityDomain requestDomain) :=
  decidable_of_iff _ sameTenant_iff

namespace Resolver

variable (r : Resolver)

/-- The user id found for an identity, which may be an empty one. -/
def foundUserId (identity : Identity) : Option String :=
  if identity.capabilities.organizationUser then
    some (Username.withoutDomain
      (Username.withoutTenant identity.username r.tenantSeparator r.mailAddresses)
      r.domainSeparator)
  else
    (identity.capabilities.userId.filter (· ≠ "")).or do
      let find ← r.collaborators.userId?
      (find identity.username identity.tenantDomain identity.storeDomain).toOption.join

/-- The username under which the tenant of an organization knows a user id. -/
def storedUsername (resident userId : Option String) : Option String := do
  let organization ← resident.filter (· ≠ "")
  let domain ← (r.collaborators.tenantDomain organization).toOption
  let tenant ← (r.collaborators.tenantId domain).toOption
  let store ← (r.collaborators.userStore tenant).toOption.join
  let userId ← userId.filter (· ≠ "")
  let user ← (store userId none).toOption.join
  user.username.filter (· ≠ "")

def publishedUserId (identity : Identity) (request : RequestContext) : Option String :=
  ((r.foundUserId identity).filter (· ≠ "")).or request.userId

/-- The username of an identity of the request's own tenant, with its store domain. -/
def ownUsername (identity : Identity) (request : RequestContext) : Option String :=
  if OfOneTenant identity.tenantDomain request.tenantDomain then
    some (Username.qualify identity.username identity.storeDomain r.domainSeparator)
  else none

/-- The real username of a federated identity that accesses an organization. -/
def realUsername (identity : Identity) (request : RequestContext) : Option String :=
  if identity.capabilities.accessesOrganization ∧ identity.capabilities.federated then
    r.storedUsername identity.capabilities.residentOrganization
      (r.publishedUserId identity request)
  else none

def published (identity : Identity) (request : RequestContext) : RequestContext where
  tenantDomain := request.tenantDomain
  username :=
    ((r.realUsername identity request).or (r.ownUsername identity request)).or request.username
  userId := r.publishedUserId identity request
  residentOrganization :=
    if identity.capabilities.accessesOrganization then identity.capabilities.residentOrganization
    else request.residentOrganization

theorem toOption_ending_findCourse (identity : Identity) :
    (r.findCourse identity).ending.toOption.join = r.foundUserId identity := by
  unfold findCourse lookUpCourse foundUserId
  rw [filter_ne_empty]
  cases identity.capabilities.organizationUser with
  | true => rfl
  | false =>
      cases nonempty? identity.capabilities.userId with
      | some userId => rfl
      | none => cases r.collaborators.userId? <;> rfl

theorem toOption_userIdOf (identity : Identity) (found : Except Failure (Option String)) :
    (userIdOf identity found).toOption = nonempty? found.toOption.join := by
  cases found with
  | error e => rfl
  | ok userId =>
      change _ = nonempty? userId
      simp only [userIdOf]
      cases nonempty? userId <;> rfl

theorem update_of_usernameCourse {identity : Identity} {request : RequestContext}
    {d d' : Decision} (h : (r.usernameCourse identity request d).ending = .ok d') :
    d'.update = { d.update with
      username := ((r.ownUsername identity request).map some).or d.update.username } := by
  unfold usernameCourse at h
  unfold ownUsername
  simp only [← sameTenant_iff]
  cases hs : sameTenant identity.tenantDomain request.tenantDomain with
  | true =>
      rw [hs] at h
      cases h
      rfl
  | false =>
      rw [hs] at h
      cases h
      rfl

theorem update_of_userIdCourse {identity : Identity} {d d' : Decision}
    (h : (r.userIdCourse identity d).ending = .ok d') :
    d'.update = { d.update with
      userId := ((nonempty? (r.foundUserId identity)).map some).or d.update.userId } := by
  obtain ⟨found, hfound, h⟩ := Course.ending_bind_eq_ok.1 h
  have hu := toOption_userIdOf identity found
  rw [← Course.ending_of_caught hfound, toOption_ending_findCourse] at hu
  rw [← hu, Course.ending_of_caught hfound]
  cases hi : userIdOf identity found with
  | ok userId =>
      rw [hi] at h
      cases h
      rfl
  | error e =>
      rw [hi] at h
      cases h
      rfl

/-- The username of a search that found one. -/
def Finding.username? : Finding → Option String
  | .found username => some username
  | .missing => none
  | .failed _ => none

theorem update_settle (d : Decision) (finding : Finding) :
    (finding.settle d).update =
      { d.update with username := (finding.username?.map some).or d.update.username } := by
  cases finding <;> rfl

theorem username?_of_storeCourse {store : UserStore} {domain : String} {tenant : Int}
    {userId : String} {finding : Finding}
    (h : (storeCourse store domain tenant userId).ending = .ok finding) :
    finding.username? = (do
      let user ← (store userId none).toOption.join
      nonempty? user.username) := by
  obtain ⟨found, hfound, h⟩ := Course.ending_bind_eq_ok.1 h
  have hs : store userId none = found := Course.ending_of_caught hfound
  rw [hs]
  match found with
  | .error e => cases h; rfl
  | .ok none => cases h; rfl
  | .ok (some user) =>
      change _ = nonempty? user.username
      dsimp only [Option.bind_some] at h
      cases hn : nonempty? user.username with
      | none =>
          rw [hn] at h
          cases h
          rfl
      | some username =>
          rw [hn] at h
          cases h
          rfl

theorem username?_of_tenantCourse {domain : String} {tenant : Int} {userId : Option String}
    {finding : Finding} (h : (r.tenantCourse domain tenant userId).ending = .ok finding) :
    finding.username? = (do
      let store ← (r.collaborators.userStore tenant).toOption.join
      let userId ← nonempty? userId
      let user ← (store userId none).toOption.join
      nonempty? user.username) := by
  obtain ⟨found, hfound, h⟩ := Course.ending_bind_eq_ok.1 h
  have hs : r.collaborators.userStore tenant = found := Course.ending_of_caught hfound
  rw [hs]
  match found with
  | .error e => cases h; rfl
  | .ok none => cases h; rfl
  | .ok (some store) =>
      dsimp only at h
      cases hu : nonempty? userId with
      | none =>
          rw [hu] at h
          cases h
          rfl
      | some userId =>
          rw [hu] at h
          exact username?_of_storeCourse h

theorem ending_locateCourse (organization : String) :
    (r.locateCourse organization).ending =
      ((r.collaborators.tenantDomain organization).bind fun domain =>
        (r.collaborators.tenantId domain).map fun tenant => (domain, tenant)) := by
  unfold locateCourse
  simp only [Course.ending_bind, Course.ending_ask]
  rfl

theorem username?_of_searchCourse {resident userId : Option String} {finding : Finding}
    (h : (r.searchCourse resident userId).ending = .ok finding) :
    finding.username? = r.storedUsername resident userId := by
  unfold searchCourse at h
  unfold storedUsername
  simp only [filter_ne_empty]
  cases ho : nonempty? resident with
  | none =>
      rw [ho] at h
      cases h
      rfl
  | some organization =>
      rw [ho] at h
      obtain ⟨place, hplace, h⟩ := Course.ending_bind_eq_ok.1 h
      have hl := Course.ending_of_caught hplace
      rw [ending_locateCourse] at hl
      simp only [Option.bind_eq_bind, Option.bind_some]
      cases hd : r.collaborators.tenantDomain organization with
      | error e =>
          rw [hd] at hl
          subst hl
          cases h
          rfl
      | ok domain =>
          cases ht : r.collaborators.tenantId domain with
          | error e =>
              simp only [hd, ht, Except.bind, Except.map] at hl
              subst hl
              cases h
              simp [Except.toOption, ht, Finding.username?]
          | ok tenant =>
              simp only [hd, ht, Except.bind, Except.map] at hl
              subst hl
              have hu := r.username?_of_tenantCourse h
              simpa [Except.toOption, ht] using hu

theorem update_of_organizationCourse {identity : Identity} {request : RequestContext}
    {d d' : Decision} (h : (r.organizationCourse identity request d).ending = .ok d') :
    d'.update =
      { d.update with
        username :=
          ((if identity.capabilities.accessesOrganization ∧ identity.capabilities.federated then
            r.storedUsername identity.capabilities.residentOrganization
              (d.update.userId.getD request.userId)
          else none).map some).or d.update.username
        residentOrganization :=
          if identity.capabilities.accessesOrganization then
            some identity.capabilities.residentOrganization
          else d.update.residentOrganization } := by
  unfold organizationCourse at h
  unfold Capabilities.accessesOrganization
  dsimp only at h
  cases ha : nonempty? identity.capabilities.accessingOrganization with
  | none =>
      rw [ha] at h
      cases h
      rfl
  | some accessing =>
      rw [ha] at h
      obtain ⟨_, _, h⟩ := Course.ending_bind_eq_ok.1 h
      cases hf : identity.capabilities.federated with
      | false =>
          rw [hf] at h
          cases h
          simp [Decision.set, Update.set]
      | true =>
          rw [hf] at h
          obtain ⟨finding, hfinding, h⟩ := Course.ending_bind_eq_ok.1 h
          cases h
          rw [update_settle, r.username?_of_searchCourse hfinding]
          simp [Decision.set, Update.set, Update.get?]

/-- The user id decided before the organization is looked at. -/
theorem userId_of_userIdCourse {identity : Identity} {request : RequestContext}
    {named known : Decision}
    (hnamed : (r.usernameCourse identity request {}).ending = .ok named)
    (hknown : (r.userIdCourse identity named).ending = .ok known) :
    known.update.userId = (nonempty? (r.foundUserId identity)).map some := by
  rw [r.update_of_userIdCourse hknown, r.update_of_usernameCourse hnamed]
  exact Option.or_none

theorem getD_foundUserId (identity : Identity) (request : RequestContext) :
    ((nonempty? (r.foundUserId identity)).map some).getD request.userId =
      r.publishedUserId identity request := by
  unfold publishedUserId
  rw [filter_ne_empty]
  cases nonempty? (r.foundUserId identity) <;> rfl

/-- What a resolution decides to write. -/
theorem update_of_course {identity : Identity} {request : RequestContext} {d : Decision}
    (h : (r.course identity request).ending = .ok d) :
    d.update =
      { username := ((r.realUsername identity request).or (r.ownUsername identity request)).map some
        userId := (nonempty? (r.foundUserId identity)).map some
        residentOrganization :=
          if identity.capabilities.accessesOrganization then
            some identity.capabilities.residentOrganization
          else none } := by
  obtain ⟨named, hnamed, h⟩ := Course.ending_bind_eq_ok.1 h
  obtain ⟨known, hknown, h⟩ := Course.ending_bind_eq_ok.1 h
  rw [r.update_of_organizationCourse h, r.userId_of_userIdCourse hnamed hknown,
    r.getD_foundUserId, r.update_of_userIdCourse hknown, r.update_of_usernameCourse hnamed]
  simp only [Option.or_none, Option.map_or]
  rfl

theorem overlay_of_course {identity : Identity} {request : RequestContext} {d : Decision}
    (h : (r.course identity request).ending = .ok d) :
    request.overlay d.update = r.published identity request := by
  rw [r.update_of_course h]
  unfold published publishedUserId RequestContext.overlay
  simp only [filter_ne_empty, RequestContext.mk.injEq, true_and]
  refine ⟨?_, ?_, ?_⟩
  · cases (r.realUsername identity request).or (r.ownUsername identity request) <;> rfl
  · cases nonempty? (r.foundUserId identity) <;> rfl
  · cases identity.capabilities.accessesOrganization <;> rfl

/-- A successful call returns, and leaves exactly the published context. -/
theorem resolve_publishes (hp : r.probe.Steady) (hc : r.collaborators.Recoverable)
    (outcome : Outcome) (ho : outcome.isSuccess = true) (identity : Identity) (s : Scene) :
    ∃ report trace,
      r.resolve outcome (some identity) s =
        .ok report
          ⟨{ s.attempt with request := r.published identity s.attempt.request }, trace⟩ := by
  obtain ⟨d, hd⟩ := r.exists_decision hc identity s.attempt.request
  have hx : (r.callCourse outcome (some identity) s.attempt.request).ending = .ok (some d) := by
    simp only [callCourse, ho, if_true]
    rw [Course.ending_bind, hd]
    rfl
  rw [resolve_of_passes (Probe.passes_of_steady hp _), hx]
  simp only [written, r.overlay_of_course hd]
  exact ⟨_, _, rfl⟩

/-- A federated identity is published under the username of its user store, found with the user id
that the request had before because the look-up of the identity's own timed out. -/
theorem resolve_publishes_real_username :
    let bob : StoredUser := ⟨"uid-9", some "bob", none⟩
    let r : Resolver :=
      { collaborators :=
          { tenantDomain := fun _ => .ok "hosting.org"
            tenantId := fun _ => .ok 7
            userStore := fun _ =>
              .ok (some fun userId _ => .ok (if userId = "uid-9" then bob else none))
            userId? := some fun _ _ _ => .error (.plain .timeout "no answer") } }
    let identity : Identity :=
      { username := "alice", tenantDomain := some "ACME.com", storeDomain := some "LDAP"
        capabilities? := some
          { federated := true, accessingOrganization := some "org-7"
            residentOrganization := some "org-42" } }
    let request : RequestContext :=
      { tenantDomain := some "acme.com", userId := some "uid-9", residentOrganization := some "" }
    r.probe.Steady ∧ r.collaborators.Recoverable ∧
      ∃ report trace,
        r.resolve ⟨.success, none⟩ (some identity) ⟨{ request }, {}⟩ =
          .ok report
            ⟨{ request := ⟨some "acme.com", some "bob", some "uid-9", some "org-42"⟩ },
              trace⟩ := by
  intro bob r identity request
  have hp : r.probe.Steady := Probe.steady_of_logger (fun _ _ => ⟨_, rfl⟩) rfl
  have hc : r.collaborators.Recoverable := by
    intro call e h
    cases call <;> simp [Collaborators.Raises, r] at h
    rw [← h]
    rfl
  refine ⟨hp, hc, ?_⟩
  have hpub : r.published identity request =
      ⟨some "acme.com", some "bob", some "uid-9", some "org-42"⟩ := by decide
  have h := resolve_publishes r hp hc ⟨.success, none⟩ rfl identity ⟨{ request }, {}⟩
  rw [← hpub]
  exact h

end Resolver

end Principal
