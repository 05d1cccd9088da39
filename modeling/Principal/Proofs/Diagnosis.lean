import Principal.Proofs.PublishedContext

/-!
# Diagnosis

Which failures a call recovers from, said from the answers of the collaborators alone: at most one
of the search for a user id and, after it, at most one of the search for the real username, be it
for want of a tenant or in the tenant found. The diagnostics are these failures, and so are the
failures that the log tells of. They are told apart by their kinds where no collaborator raises a
failure that is of the kinds of two steps at once.
-/

namespace Principal

namespace Failure

/-- The kinds that the steps of a resolution record their failures as. -/
def Kind.ofSteps : List Kind := [userId, organization, userStore]

/-- The failure is of the kind of one step at most. -/
def OfOneStep (e : Failure) : Prop :=
  ∀ a ∈ Kind.ofSteps, ∀ b ∈ Kind.ofSteps, e.isA a = true → e.isA b = true → a = b

theorem OfOneStep.not_isA {e : Failure} {a b : Kind} (h : e.OfOneStep) (he : e.isA a = true)
    (ha : a ∈ Kind.ofSteps) (hb : b ∈ Kind.ofSteps) (hne : a ≠ b) : e.isA b = false := by
  rw [Bool.eq_false_iff]
  exact fun hbe => hne (h a ha b hb he hbe)

theorem ofOneStep_of_kind {e : Failure} (h : e.kind ∈ Kind.ofSteps) : e.OfOneStep := by
  have hall : ∀ kind ∈ Kind.ofSteps, ∀ a ∈ Kind.ofSteps, ∀ b ∈ Kind.ofSteps,
      kind.isA a = true → kind.isA b = true → a = b := by decide
  exact hall e.kind h

/-- What a failure is recorded as: itself if it is of the kind, and otherwise a failure of the kind
that tells its text and names it as the cause. -/
inductive Becomes (e : Failure) (kind : Kind) (message : String) : Failure → Prop where
  | same (h : e.isA kind = true) : Becomes e kind message e
  | caused (h : e.isA kind = false) :
      Becomes e kind message (because kind (message ++ ": " ++ e.text) e)

theorem becomes_iff {e e' : Failure} {kind : Kind} {message : String} :
    e.Becomes kind message e' ↔ e' = e.within kind message := by
  unfold within
  cases hk : e.isA kind with
  | true =>
      rw [if_pos rfl]
      constructor
      · intro h
        cases h with
        | same => rfl
        | caused hn =>
            rw [hk] at hn
            cases hn
      · rintro rfl
        exact .same hk
  | false =>
      rw [if_neg Bool.false_ne_true]
      constructor
      · intro h
        cases h with
        | same hs =>
            rw [hk] at hs
            cases hs
        | caused => rfl
      · rintro rfl
        exact .caused hk

theorem becomes_within (e : Failure) (kind : Kind) (message : String) :
    e.Becomes kind message (e.within kind message) :=
  becomes_iff.2 rfl

theorem Becomes.isA {e e' : Failure} {kind : Kind} {message : String}
    (h : e.Becomes kind message e') : e'.isA kind = true := by
  rw [becomes_iff.1 h]
  exact isA_within e kind message

/-- A failure that is recorded as caused by another is of the kind of its own step alone. -/
theorem Becomes.ofOneStep {e e' : Failure} {kind : Kind} {message : String}
    (h : e.Becomes kind message e') (he : e.OfOneStep) (hk : kind ∈ Kind.ofSteps) :
    e'.OfOneStep := by
  cases h with
  | same => exact he
  | caused => exact ofOneStep_of_kind hk

end Failure

/-- The failure that an event of level error tells of. -/
def Event.error? : Event → Option Failure
  | userIdUnresolved _ e => some e
  | organizationUnresolved _ e => some e
  | userStoreUnreadable _ e => some e
  | publicationFailed _ e => some e
  | _ => none

theorem Event.level_eq_error_iff {event : Event} : event.level = .error ↔ event.error? ≠ none := by
  cases event <;> simp [Event.level, Event.error?]

/-- Exactly the events of level error tell of a failure. -/
theorem Event.map_error?_filter (events : List Event) :
    (events.filter fun event => event.level = .error).map Event.error? =
      (events.filterMap Event.error?).map some := by
  induction events with
  | nil => rfl
  | cons event events ih =>
      cases he : event.error? with
      | none =>
          have hlevel : ¬ event.level = .error := by
            rw [level_eq_error_iff, he]
            exact fun h => h rfl
          rw [List.filter_cons_of_neg (by simpa using hlevel), List.filterMap_cons_none he, ih]
      | some e =>
          have hlevel : event.level = .error := by
            rw [level_eq_error_iff, he]
            exact Option.some_ne_none e
          rw [List.filter_cons_of_pos (by simpa using hlevel), List.filterMap_cons_some he,
            List.map_cons, List.map_cons, he, ih]

namespace Collaborators

variable (c : Collaborators)

/-- One of the two directories raised when asked for the tenant of an organization. -/
inductive DirectoryRaises (organization : String) : Failure → Prop where
  | organizations {e : Failure} (h : c.tenantDomain organization = .error e) :
      DirectoryRaises organization e
  | tenants {domain : String} {e : Failure} (hd : c.tenantDomain organization = .ok domain)
      (h : c.tenantId domain = .error e) : DirectoryRaises organization e

/-- Both directories answered. -/
def Hosts (organization : String) (tenant : Int) : Prop :=
  ∃ domain, c.tenantDomain organization = .ok domain ∧ c.tenantId domain = .ok tenant

/-- A failure met by the search for a user id in a tenant, as it is recorded. -/
inductive TenantFails (tenant : Int) (userId : Option String) : Failure → Prop where
  | registry {e e' : Failure} (h : c.userStore tenant = .error e)
      (he : e.Becomes .userStore ("Could not load user store of tenant " ++ toString tenant) e') :
      TenantFails tenant userId e'
  | store {find : UserStore} {key : String} {e e' : Failure}
      (hs : c.userStore tenant = .ok (some find)) (hk : Gives userId key)
      (h : find key none = .error e)
      (he : e.Becomes .userStore ("Could not query user store of tenant " ++ toString tenant) e') :
      TenantFails tenant userId e'

/-- The failure to find the tenant of the resident organization, as it is recorded. -/
inductive HostFails (resident : Option String) : Failure → Prop where
  | undeclared (hr : ∀ organization, ¬ Gives resident organization) :
      HostFails resident
        (.plain .organization
          "Identity accesses an organization but declares no resident organization")
  | directory {organization : String} {e e' : Failure} (hr : Gives resident organization)
      (h : c.DirectoryRaises organization e)
      (he : e.Becomes .organization
        ("Could not resolve tenant of organization " ++ quoted organization) e') :
      HostFails resident e'

/-- A failure met by the search for a user id in the tenant of the resident organization, as it is
recorded. -/
inductive StoreFails (resident userId : Option String) : Failure → Prop where
  | tenant {organization : String} {tenant : Int} {e : Failure} (hr : Gives resident organization)
      (ht : c.Hosts organization tenant) (h : c.TenantFails tenant userId e) :
      StoreFails resident userId e

/-- The failure of a search for the real username, as it is recorded. -/
def SearchFails (resident userId : Option String) (e : Failure) : Prop :=
  c.HostFails resident e ∨ c.StoreFails resident userId e

/-- The search for a user id in a tenant meets no failure: the tenant has no store, no user id is
known, or the store answers, be it without a user or with one that has no username. -/
inductive TenantAnswers (tenant : Int) (userId : Option String) : Prop where
  | noStore (hs : c.userStore tenant = .ok none)
  | noUserId {find : UserStore} (hs : c.userStore tenant = .ok (some find))
      (hk : ∀ key, ¬ Gives userId key)
  | answered {find : UserStore} {key : String} {user : Option StoredUser}
      (hs : c.userStore tenant = .ok (some find)) (hk : Gives userId key)
      (h : find key none = .ok user)

variable {c} {organization : String} {tenant : Int} {resident userId : Option String} {e : Failure}

theorem TenantFails.isA (h : c.TenantFails tenant userId e) : e.isA .userStore = true := by
  cases h with
  | registry _ he => exact he.isA
  | store _ _ _ he => exact he.isA

theorem tenantFails_iff_of_raises {cause : Failure} (h : c.userStore tenant = .error cause) :
    c.TenantFails tenant userId e ↔ e = Resolver.storeUnavailable tenant cause := by
  constructor
  · intro hf
    cases hf with
    | registry hr he =>
        cases hr.symm.trans h
        exact Failure.becomes_iff.1 he
    | store hs => cases hs.symm.trans h
  · rintro rfl
    exact .registry h (Failure.becomes_within _ _ _)

theorem tenantFails_iff_of_store {find : UserStore} {key : String}
    (hs : c.userStore tenant = .ok (some find)) (hk : Gives userId key) :
    c.TenantFails tenant userId e ↔
      ∃ cause, find key none = .error cause ∧ e = Resolver.storeUnreadable tenant cause := by
  constructor
  · intro hf
    cases hf with
    | registry hr => cases hr.symm.trans hs
    | store hs' hk' h he =>
        cases hs'.symm.trans hs
        cases hk'.unique hk
        exact ⟨_, h, Failure.becomes_iff.1 he⟩
  · rintro ⟨cause, h, rfl⟩
    exact .store hs hk h (Failure.becomes_within _ _ _)

theorem not_tenantFails_of_noStore (h : c.userStore tenant = .ok none) :
    ¬ c.TenantFails tenant userId e := by
  intro hf
  cases hf with
  | registry hr => cases hr.symm.trans h
  | store hs => cases hs.symm.trans h

theorem not_tenantFails_of_noUserId {find : UserStore} (h : c.userStore tenant = .ok (some find))
    (hk : ∀ key, ¬ Gives userId key) : ¬ c.TenantFails tenant userId e := by
  intro hf
  cases hf with
  | registry hr => cases hr.symm.trans h
  | store _ hk' => exact hk _ hk'

/-- A tenant fails a search exactly if the registry or the tenant's store raised. -/
theorem exists_tenantFails_iff :
    (∃ e, c.TenantFails tenant userId e) ↔
      (∃ e, c.userStore tenant = .error e) ∨
        ∃ find key e, c.userStore tenant = .ok (some find) ∧ Gives userId key ∧
          find key none = .error e := by
  constructor
  · rintro ⟨e, h⟩
    cases h with
    | registry h => exact .inl ⟨_, h⟩
    | store hs hk h => exact .inr ⟨_, _, _, hs, hk, h⟩
  · rintro (⟨e, h⟩ | ⟨find, key, e, hs, hk, h⟩)
    · exact ⟨_, .registry h (Failure.becomes_within _ _ _)⟩
    · exact ⟨_, .store hs hk h (Failure.becomes_within _ _ _)⟩

theorem DirectoryRaises.not_hosts (h : c.DirectoryRaises organization e) :
    ¬ c.Hosts organization tenant := by
  rintro ⟨domain, hd, ht⟩
  cases h with
  | organizations h =>
      rw [h] at hd
      cases hd
  | tenants hd' h =>
      rw [hd'] at hd
      cases hd
      rw [h] at ht
      cases ht

theorem Hosts.unique {tenant' : Int} (h : c.Hosts organization tenant)
    (h' : c.Hosts organization tenant') : tenant = tenant' := by
  obtain ⟨domain, hd, ht⟩ := h
  obtain ⟨domain', hd', ht'⟩ := h'
  rw [hd] at hd'
  cases hd'
  rw [ht] at ht'
  exact Except.ok.inj ht'

theorem DirectoryRaises.unique {e' : Failure} (h : c.DirectoryRaises organization e)
    (h' : c.DirectoryRaises organization e') : e = e' := by
  cases h with
  | organizations h =>
      cases h' with
      | organizations h' => exact Except.error.inj (h.symm.trans h')
      | tenants hd h' => cases h.symm.trans hd
  | tenants hd h =>
      cases h' with
      | organizations h' => cases hd.symm.trans h'
      | tenants hd' h' =>
          cases hd.symm.trans hd'
          exact Except.error.inj (h.symm.trans h')

theorem HostFails.isA (h : c.HostFails resident e) : e.isA .organization = true := by
  cases h with
  | undeclared => rfl
  | directory _ _ he => exact he.isA

theorem StoreFails.isA (h : c.StoreFails resident userId e) : e.isA .userStore = true := by
  cases h with
  | tenant _ _ h => exact h.isA

/-- There is no search in a tenant that is not found. -/
theorem HostFails.not_storeFails {e' : Failure} (h : c.HostFails resident e) :
    ¬ c.StoreFails resident userId e' := by
  rintro ⟨hr, ht, _⟩
  cases h with
  | undeclared hn => exact hn _ hr
  | directory hr' hd =>
      cases hr'.unique hr
      exact hd.not_hosts ht

theorem searchFails_iff_of_undeclared (hr : ∀ organization, ¬ Gives resident organization) :
    c.SearchFails resident userId e ↔ e = Resolver.noResidentOrganization := by
  have hhost : c.HostFails resident Resolver.noResidentOrganization := .undeclared hr
  constructor
  · rintro (hf | hf)
    · cases hf with
      | undeclared => rfl
      | directory hr' => exact absurd hr' (hr _)
    · exact absurd hf hhost.not_storeFails
  · rintro rfl
    exact .inl hhost

theorem searchFails_iff_of_raises {cause : Failure} (hr : Gives resident organization)
    (hd : c.DirectoryRaises organization cause) :
    c.SearchFails resident userId e ↔ e = Resolver.tenantUnresolved organization cause := by
  have hhost : c.HostFails resident (Resolver.tenantUnresolved organization cause) :=
    .directory hr hd (Failure.becomes_within _ _ _)
  constructor
  · rintro (hf | hf)
    · cases hf with
      | undeclared hr' => exact absurd hr (hr' _)
      | directory hr' hd' he =>
          cases hr'.unique hr
          cases hd'.unique hd
          exact Failure.becomes_iff.1 he
    · exact absurd hf hhost.not_storeFails
  · rintro rfl
    exact .inl hhost

theorem searchFails_iff_of_hosts (hr : Gives resident organization)
    (ht : c.Hosts organization tenant) :
    c.SearchFails resident userId e ↔ c.TenantFails tenant userId e := by
  constructor
  · rintro (hf | ⟨hr', ht', h⟩)
    · cases hf with
      | undeclared hr' => exact absurd hr (hr' _)
      | directory hr' hd =>
          cases hr'.unique hr
          exact absurd ht hd.not_hosts
    · cases hr'.unique hr
      cases ht'.unique ht
      exact h
  · exact fun h => .inr (.tenant hr ht h)

/-- The tenant is not found exactly if no resident organization is declared or one of the
directories raised. -/
theorem exists_hostFails_iff :
    (∃ e, c.HostFails resident e) ↔
      (∀ organization, ¬ Gives resident organization) ∨
        ∃ organization e, Gives resident organization ∧ c.DirectoryRaises organization e := by
  constructor
  · rintro ⟨e, h⟩
    cases h with
    | undeclared hr => exact .inl hr
    | directory hr hd => exact .inr ⟨_, _, hr, hd⟩
  · rintro (hr | ⟨organization, e, hr, hd⟩)
    · exact ⟨_, .undeclared hr⟩
    · exact ⟨_, .directory hr hd (e.becomes_within _ _)⟩

/-- A search fails in the tenant exactly if the directories answered and the registry or the
tenant's store raised. -/
theorem exists_storeFails_iff :
    (∃ e, c.StoreFails resident userId e) ↔
      ∃ organization tenant, Gives resident organization ∧ c.Hosts organization tenant ∧
        ∃ e, c.TenantFails tenant userId e := by
  constructor
  · rintro ⟨e, hr, ht, h⟩
    exact ⟨_, _, hr, ht, e, h⟩
  · rintro ⟨organization, tenant, hr, ht, e, h⟩
    exact ⟨e, .tenant hr ht h⟩

theorem TenantAnswers.not_tenantFails (h : c.TenantAnswers tenant userId) :
    ¬ c.TenantFails tenant userId e := by
  cases h with
  | noStore hs => exact not_tenantFails_of_noStore hs
  | noUserId hs hk => exact not_tenantFails_of_noUserId hs hk
  | answered hs hk hanswers =>
      rw [tenantFails_iff_of_store hs hk]
      rintro ⟨cause, hraises, _⟩
      cases hanswers.symm.trans hraises

theorem TenantAnswers.not_searchFails (h : c.TenantAnswers tenant userId)
    (hr : Gives resident organization) (ht : c.Hosts organization tenant) :
    ¬ c.SearchFails resident userId e := by
  rw [searchFails_iff_of_hosts hr ht]
  exact h.not_tenantFails

section OneStep

variable (c) in
/-- Whatever is raised is of the kind of one step at most. -/
def OfOneStep : Prop :=
  ∀ call e, c.Raises call e → e.OfOneStep

variable (hc : c.OfOneStep)

include hc

theorem HostFails.ofOneStep (h : c.HostFails resident e) : e.OfOneStep := by
  have hmem : .organization ∈ Failure.Kind.ofSteps := by decide
  cases h with
  | undeclared => exact Failure.ofOneStep_of_kind hmem
  | directory _ hd he =>
      cases hd with
      | organizations h => exact he.ofOneStep (hc (.tenantDomain _) _ h) hmem
      | tenants _ h => exact he.ofOneStep (hc (.tenantId _) _ h) hmem

theorem StoreFails.ofOneStep (h : c.StoreFails resident userId e) : e.OfOneStep := by
  have hmem : .userStore ∈ Failure.Kind.ofSteps := by decide
  obtain ⟨_, _, h⟩ := h
  cases h with
  | registry h he => exact he.ofOneStep (hc (.userStore _) _ h) hmem
  | store hs _ h he => exact he.ofOneStep (hc (.user _ _) _ ⟨_, _, hs, h⟩) hmem

end OneStep

end Collaborators

namespace Resolver

variable (r : Resolver)

/-- The index of user ids raised when asked for the one of an identity. -/
def LookUpRaises (identity : Identity) (e : Failure) : Prop :=
  identity.capabilities.organizationUser = false ∧
    (∀ userId, ¬ Gives identity.capabilities.userId userId) ∧
    ∃ find, r.collaborators.userId? = some find ∧
      find identity.username identity.tenantDomain identity.storeDomain = .error e

/-- The failure of the search for the user id of an identity, as it is recorded. -/
inductive UserIdFails (identity : Identity) : Failure → Prop where
  | raised {e e' : Failure} (h : r.LookUpRaises identity e)
      (he : e.Becomes .userId "User id lookup failed" e') : UserIdFails identity e'
  | nothing (hn : ∀ e, ¬ r.LookUpRaises identity e)
      (h : ∀ userId, ¬ Gives (r.foundUserId identity) userId) :
      UserIdFails identity
        (.plain .userId
          ("No user id available for identity in tenant " ++ quotedOption identity.tenantDomain))

variable {r} {identity : Identity} {request : RequestContext} {d d' : Decision}

theorem ending_findCourse_eq_error_iff {e : Failure} :
    (r.findCourse identity).ending = .error e ↔ r.LookUpRaises identity e := by
  unfold findCourse lookUpCourse LookUpRaises
  rw [← nonempty?_eq_none_iff]
  cases identity.capabilities.organizationUser with
  | true => simp
  | false =>
      cases nonempty? identity.capabilities.userId with
      | some userId => simp
      | none => cases r.collaborators.userId? <;> simp

theorem LookUpRaises.unique {e e' : Failure} (h : r.LookUpRaises identity e)
    (h' : r.LookUpRaises identity e') : e = e' :=
  Except.error.inj
    ((ending_findCourse_eq_error_iff.2 h).symm.trans (ending_findCourse_eq_error_iff.2 h'))

theorem userIdFails_iff_of_raises {cause e : Failure} (h : r.LookUpRaises identity cause) :
    r.UserIdFails identity e ↔ e = cause.within .userId "User id lookup failed" := by
  constructor
  · intro hf
    cases hf with
    | raised h' he =>
        cases h'.unique h
        exact Failure.becomes_iff.1 he
    | nothing hn => exact absurd h (hn cause)
  · rintro rfl
    exact .raised h (Failure.becomes_within _ _ _)

theorem userIdFails_iff_of_answered {e : Failure} (h : ∀ cause, ¬ r.LookUpRaises identity cause) :
    r.UserIdFails identity e ↔
      nonempty? (r.foundUserId identity) = none ∧ e = noUserId identity := by
  rw [nonempty?_eq_none_iff]
  constructor
  · intro hf
    cases hf with
    | raised hraises => exact absurd hraises (h _)
    | nothing _ hn => exact ⟨hn, rfl⟩
  · rintro ⟨hn, rfl⟩
    exact .nothing h hn

theorem userIdOf_eq_error_iff {e : Failure} :
    userIdOf identity (r.findCourse identity).ending = .error e ↔ r.UserIdFails identity e := by
  have hfound := r.toOption_ending_findCourse identity
  cases hx : (r.findCourse identity).ending with
  | error cause =>
      rw [userIdFails_iff_of_raises (ending_findCourse_eq_error_iff.1 hx)]
      simp only [userIdOf, Except.error.injEq, eq_comm]
  | ok found =>
      have hquiet : ∀ cause, ¬ r.LookUpRaises identity cause := by
        intro cause h
        rw [ending_findCourse_eq_error_iff.2 h] at hx
        cases hx
      rw [hx] at hfound
      change found = _ at hfound
      rw [userIdFails_iff_of_answered hquiet, hfound]
      cases hn : nonempty? (r.foundUserId identity) with
      | some userId => simp [userIdOf, hn]
      | none => simp [userIdOf, hn, eq_comm]

theorem UserIdFails.isA {e : Failure} (h : r.UserIdFails identity e) : e.isA .userId = true := by
  cases h with
  | raised _ he => exact he.isA
  | nothing => rfl

theorem UserIdFails.ofOneStep (hc : r.collaborators.OfOneStep) {e : Failure}
    (h : r.UserIdFails identity e) : e.OfOneStep := by
  have hmem : .userId ∈ Failure.Kind.ofSteps := by decide
  cases h with
  | raised hraises he => exact he.ofOneStep (hc (.userId _ _ _) _ hraises.2.2) hmem
  | nothing => exact Failure.ofOneStep_of_kind hmem

/-- Naming the username adds nothing to the diagnostics. -/
theorem diagnosed_of_usernameCourse (h : (r.usernameCourse identity request d).ending = .ok d') :
    d'.diagnostics = d.diagnostics ∧
      (Act.events (r.usernameCourse identity request d).acts).filterMap Event.error? = [] := by
  unfold usernameCourse at h ⊢
  cases hs : sameTenant identity.tenantDomain request.tenantDomain with
  | true =>
      rw [hs] at h
      cases h
      exact ⟨rfl, rfl⟩
  | false =>
      rw [hs] at h
      cases h
      exact ⟨rfl, rfl⟩

/-- What the search for the user id adds to the diagnostics is what it tells the log. -/
theorem diagnosed_of_userIdCourse (h : (r.userIdCourse identity d).ending = .ok d') :
    ∃ unresolved : Option Failure, d'.diagnostics = d.diagnostics ++ unresolved.toList ∧
      (∀ e, unresolved = some e ↔ r.UserIdFails identity e) ∧
      (Act.events (r.userIdCourse identity d).acts).filterMap Event.error? =
        unresolved.toList := by
  obtain ⟨found, hfound, h⟩ := Course.ending_bind_eq_ok.1 h
  have hfails : ∀ e, userIdOf identity found = .error e ↔ r.UserIdFails identity e := by
    intro e
    rw [← Course.ending_of_caught hfound]
    exact userIdOf_eq_error_iff
  unfold userIdCourse
  rw [Course.bind_of_ok hfound]
  cases hi : userIdOf identity found with
  | ok userId =>
      rw [hi] at h
      cases h
      refine ⟨none, (List.append_nil _).symm, fun e => ?_, ?_⟩
      · rw [← hfails, hi]
        exact iff_of_false nofun nofun
      · rw [Act.events_append, r.events_findCourse]
        rfl
  | error e =>
      rw [hi] at h
      cases h
      refine ⟨some e, rfl, fun e' => ?_, ?_⟩
      · rw [← hfails, hi]
        simp only [Option.some.injEq, Except.error.injEq]
      · rw [Act.events_append, r.events_findCourse]
        rfl

/-- The failure that a search ended with. -/
def Finding.failure? : Finding → Option Failure
  | .found _ => none
  | .missing => none
  | .failed e => some e

theorem Finding.failure?_failed_eq_some_iff {e e' : Failure} :
    (Finding.failed e).failure? = some e' ↔ e' = e := by
  simp only [failure?, Option.some.injEq, eq_comm]

theorem diagnostics_settle (d : Decision) (finding : Finding) :
    (finding.settle d).diagnostics = d.diagnostics ++ finding.failure?.toList := by
  cases finding with
  | found username => exact (List.append_nil _).symm
  | missing => exact (List.append_nil _).symm
  | failed e => rfl

section Search

variable {store : UserStore} {domain userId : String} {tenant : Int} {finding : Finding}

theorem diagnosed_of_storeCourse
    (h : (storeCourse store domain tenant userId).ending = .ok finding) :
    (∀ e', finding.failure? = some e' ↔
      ∃ e, store userId none = .error e ∧ e' = storeUnreadable tenant e) ∧
    (Act.events (storeCourse store domain tenant userId).acts).filterMap Event.error? =
      finding.failure?.toList := by
  obtain ⟨found, hfound, h⟩ := Course.ending_bind_eq_ok.1 h
  have hs : store userId none = found := Course.ending_of_caught hfound
  unfold storeCourse
  rw [Course.bind_of_ok hfound, hs]
  cases found with
  | error e =>
      cases h
      refine ⟨fun e' => ?_, rfl⟩
      rw [Finding.failure?_failed_eq_some_iff]
      simp only [Except.error.injEq, exists_eq_left']
  | ok user =>
      dsimp only at h ⊢
      cases hn : nonempty? (user.bind (·.username)) with
      | none =>
          rw [hn] at h
          cases h
          exact ⟨fun e' => by simp [Finding.failure?], rfl⟩
      | some username =>
          rw [hn] at h
          cases h
          exact ⟨fun e' => by simp [Finding.failure?], rfl⟩

theorem diagnosed_of_tenantCourse {userId : Option String}
    (h : (r.tenantCourse domain tenant userId).ending = .ok finding) :
    (∀ e, finding.failure? = some e ↔ r.collaborators.TenantFails tenant userId e) ∧
    (Act.events (r.tenantCourse domain tenant userId).acts).filterMap Event.error? =
      finding.failure?.toList := by
  obtain ⟨found, hfound, h⟩ := Course.ending_bind_eq_ok.1 h
  have hs : r.collaborators.userStore tenant = found := Course.ending_of_caught hfound
  unfold tenantCourse
  rw [Course.bind_of_ok hfound]
  match found with
  | .error cause =>
      cases h
      refine ⟨fun e => ?_, rfl⟩
      rw [Finding.failure?_failed_eq_some_iff, Collaborators.tenantFails_iff_of_raises hs]
  | .ok none =>
      cases h
      exact ⟨fun e => iff_of_false nofun (Collaborators.not_tenantFails_of_noStore hs), rfl⟩
  | .ok (some store) =>
      dsimp only at h ⊢
      cases hu : nonempty? userId with
      | none =>
          rw [hu] at h
          cases h
          have hnone := nonempty?_eq_none_iff.1 hu
          exact ⟨fun e => iff_of_false nofun (Collaborators.not_tenantFails_of_noUserId hs hnone),
            rfl⟩
      | some key =>
          rw [hu] at h
          obtain ⟨hfails, hlog⟩ := diagnosed_of_storeCourse h
          refine ⟨fun e => ?_, hlog⟩
          rw [hfails, Collaborators.tenantFails_iff_of_store hs (nonempty?_eq_some_iff.1 hu)]

theorem directoryRaises_of_ending_locateCourse {organization : String} {e : Failure}
    (h : (r.locateCourse organization).ending = .error e) :
    r.collaborators.DirectoryRaises organization e := by
  rcases Course.ending_bind_eq_error.1 h with hd | ⟨domain, hd, h⟩
  · exact .organizations hd
  · rcases Course.ending_bind_eq_error.1 h with ht | ⟨tenant, _, h⟩
    · exact .tenants hd ht
    · cases h

theorem hosts_of_ending_locateCourse {organization : String}
    (h : (r.locateCourse organization).ending = .ok (domain, tenant)) :
    r.collaborators.Hosts organization tenant := by
  obtain ⟨domain', hd, h⟩ := Course.ending_bind_eq_ok.1 h
  obtain ⟨tenant', ht, h⟩ := Course.ending_bind_eq_ok.1 h
  cases h
  exact ⟨domain, hd, ht⟩

/-- What the search for the real username ends with is what it tells the log. -/
theorem diagnosed_of_searchCourse {resident userId : Option String}
    (h : (r.searchCourse resident userId).ending = .ok finding) :
    (∀ e, finding.failure? = some e ↔ r.collaborators.SearchFails resident userId e) ∧
    (Act.events (r.searchCourse resident userId).acts).filterMap Event.error? =
      finding.failure?.toList := by
  unfold searchCourse at h ⊢
  cases ho : nonempty? resident with
  | none =>
      rw [ho] at h
      cases h
      refine ⟨fun e => ?_, rfl⟩
      rw [Finding.failure?_failed_eq_some_iff,
        Collaborators.searchFails_iff_of_undeclared (nonempty?_eq_none_iff.1 ho)]
  | some organization =>
      rw [ho] at h
      obtain ⟨place, hplace, h⟩ := Course.ending_bind_eq_ok.1 h
      have hl := Course.ending_of_caught hplace
      have hgives := nonempty?_eq_some_iff.1 ho
      dsimp only
      rw [Course.bind_of_ok hplace, Act.events_append, r.events_locateCourse]
      cases place with
      | error cause =>
          cases h
          have hraises := directoryRaises_of_ending_locateCourse hl
          refine ⟨fun e => ?_, rfl⟩
          rw [Finding.failure?_failed_eq_some_iff,
            Collaborators.searchFails_iff_of_raises hgives hraises]
      | ok place =>
          obtain ⟨domain, tenant⟩ := place
          have hhosts := hosts_of_ending_locateCourse hl
          obtain ⟨hfails, hlog⟩ := diagnosed_of_tenantCourse h
          refine ⟨fun e => ?_, hlog⟩
          rw [hfails, Collaborators.searchFails_iff_of_hosts hgives hhosts]

end Search

/-- What an organization adds to the diagnostics is what it tells the log. -/
theorem diagnosed_of_organizationCourse
    (h : (r.organizationCourse identity request d).ending = .ok d') :
    ∃ failed : Option Failure, d'.diagnostics = d.diagnostics ++ failed.toList ∧
      (∀ e, failed = some e ↔
        identity.capabilities.accessesOrganization = true ∧
          identity.capabilities.federated = true ∧
          r.collaborators.SearchFails identity.capabilities.residentOrganization
            (d.update.userId.getD request.userId) e) ∧
      (Act.events (r.organizationCourse identity request d).acts).filterMap Event.error? =
        failed.toList := by
  unfold organizationCourse at h ⊢
  unfold Capabilities.accessesOrganization
  dsimp only at h ⊢
  cases ha : nonempty? identity.capabilities.accessingOrganization with
  | none =>
      rw [ha] at h
      cases h
      refine ⟨none, (List.append_nil _).symm, fun e => iff_of_false nofun ?_, rfl⟩
      rintro ⟨ha, _⟩
      cases ha
  | some accessing =>
      rw [ha] at h
      obtain ⟨_, _, h⟩ := Course.ending_bind_eq_ok.1 h
      cases hf : identity.capabilities.federated with
      | false =>
          rw [hf] at h
          cases h
          refine ⟨none, (List.append_nil _).symm, fun e => iff_of_false nofun ?_, rfl⟩
          rintro ⟨_, hf, _⟩
          cases hf
      | true =>
          rw [hf] at h
          obtain ⟨finding, hfinding, h⟩ := Course.ending_bind_eq_ok.1 h
          cases h
          obtain ⟨hfails, hlog⟩ := diagnosed_of_searchCourse hfinding
          refine ⟨finding.failure?, diagnostics_settle _ finding, fun e => ?_, ?_⟩
          · rw [hfails]
            simp [Decision.set, Update.set, Update.get?]
          · dsimp only
            rw [if_pos rfl, Course.acts_note_bind, Course.acts_bind hfinding, Course.acts_pure,
              List.append_nil, Act.events_event, List.filterMap_cons_none rfl]
            exact hlog

theorem exists_userIdFails_iff :
    (∃ e, r.UserIdFails identity e) ↔ nonempty? (r.foundUserId identity) = none := by
  have hoption := toOption_userIdOf identity (r.findCourse identity).ending
  rw [toOption_ending_findCourse] at hoption
  cases hu : userIdOf identity (r.findCourse identity).ending with
  | ok userId =>
      rw [hu] at hoption
      refine iff_of_false ?_ ?_
      · rintro ⟨e, he⟩
        rw [userIdOf_eq_error_iff.2 he] at hu
        cases hu
      · rw [← hoption]
        nofun
  | error e =>
      rw [hu] at hoption
      exact iff_of_true ⟨e, userIdOf_eq_error_iff.1 hu⟩ hoption.symm

/-- The diagnostics of a decision, by the step that each comes from: the failure of the search for
the user id, if the call decides none, and then that of the search for the real username, if there
is such a search and it fails. -/
structure Diagnosis (r : Resolver) (identity : Identity) (request : RequestContext) (d : Decision)
    (unresolved failed : Option Failure) : Prop where
  listed : d.diagnostics = unresolved.toList ++ failed.toList
  unresolved_iff_undecided : unresolved ≠ none ↔ d.update.get? .userId = none
  unresolved_iff : ∀ e, unresolved = some e ↔ r.UserIdFails identity e
  isA_userId : ∀ e, unresolved = some e → e.isA .userId = true
  failed_iff : ∀ e, failed = some e ↔
    identity.capabilities.accessesOrganization = true ∧ identity.capabilities.federated = true ∧
      r.collaborators.SearchFails identity.capabilities.residentOrganization
        (r.publishedUserId identity request) e
  isA_organization : ∀ e, failed = some e →
    r.collaborators.HostFails identity.capabilities.residentOrganization e →
      e.isA .organization = true
  organization_iff :
    (∃ e, failed = some e ∧
      r.collaborators.HostFails identity.capabilities.residentOrganization e) ↔
    identity.capabilities.accessesOrganization = true ∧ identity.capabilities.federated = true ∧
      ((∀ organization, ¬ Gives identity.capabilities.residentOrganization organization) ∨
        ∃ organization e, Gives identity.capabilities.residentOrganization organization ∧
          r.collaborators.DirectoryRaises organization e)
  isA_userStore : ∀ e, failed = some e →
    r.collaborators.StoreFails identity.capabilities.residentOrganization
      (r.publishedUserId identity request) e → e.isA .userStore = true
  userStore_iff :
    (∃ e, failed = some e ∧
      r.collaborators.StoreFails identity.capabilities.residentOrganization
        (r.publishedUserId identity request) e) ↔
    identity.capabilities.accessesOrganization = true ∧ identity.capabilities.federated = true ∧
      ∃ organization tenant, Gives identity.capabilities.residentOrganization organization ∧
        r.collaborators.Hosts organization tenant ∧
        ((∃ e, r.collaborators.userStore tenant = .error e) ∨
          ∃ find key e, r.collaborators.userStore tenant = .ok (some find) ∧
            Gives (r.publishedUserId identity request) key ∧ find key none = .error e)
  silent : ∀ organization tenant, Gives identity.capabilities.residentOrganization organization →
    r.collaborators.Hosts organization tenant →
      r.collaborators.TenantAnswers tenant (r.publishedUserId identity request) → failed = none
  recorded : (∀ key, ¬ Gives (r.publishedUserId identity request) key) → unresolved ≠ none

/-- The diagnostics of a decision, by their kinds alone. -/
structure DiagnosisByKind (r : Resolver) (identity : Identity) (request : RequestContext)
    (d : Decision) : Prop where
  userId_iff : (∃ e ∈ d.diagnostics, e.isA .userId = true) ↔ d.update.get? .userId = none
  organization_iff : (∃ e ∈ d.diagnostics, e.isA .organization = true) ↔
    identity.capabilities.accessesOrganization = true ∧ identity.capabilities.federated = true ∧
      ((∀ organization, ¬ Gives identity.capabilities.residentOrganization organization) ∨
        ∃ organization e, Gives identity.capabilities.residentOrganization organization ∧
          r.collaborators.DirectoryRaises organization e)
  userStore_iff : (∃ e ∈ d.diagnostics, e.isA .userStore = true) ↔
    identity.capabilities.accessesOrganization = true ∧ identity.capabilities.federated = true ∧
      ∃ organization tenant, Gives identity.capabilities.residentOrganization organization ∧
        r.collaborators.Hosts organization tenant ∧
        ((∃ e, r.collaborators.userStore tenant = .error e) ∨
          ∃ find key e, r.collaborators.userStore tenant = .ok (some find) ∧
            Gives (r.publishedUserId identity request) key ∧ find key none = .error e)

theorem diagnosed_of_course (h : (r.course identity request).ending = .ok d) :
    ∃ unresolved failed : Option Failure, d.diagnostics = unresolved.toList ++ failed.toList ∧
      (∀ e, unresolved = some e ↔ r.UserIdFails identity e) ∧
      (∀ e, failed = some e ↔
        identity.capabilities.accessesOrganization = true ∧
          identity.capabilities.federated = true ∧
          r.collaborators.SearchFails identity.capabilities.residentOrganization
            (r.publishedUserId identity request) e) ∧
      (Act.events (r.course identity request).acts).filterMap Event.error? = d.diagnostics := by
  obtain ⟨named, hnamed, h⟩ := Course.ending_bind_eq_ok.1 h
  obtain ⟨known, hknown, h⟩ := Course.ending_bind_eq_ok.1 h
  obtain ⟨hnone, hquiet⟩ := diagnosed_of_usernameCourse hnamed
  obtain ⟨unresolved, hlisted, hunresolved, hlog⟩ := diagnosed_of_userIdCourse hknown
  obtain ⟨failed, hlisted', hfailed, hlog'⟩ := diagnosed_of_organizationCourse h
  -- The search for the real username asks for the user id that has just been decided.
  rw [r.userId_of_userIdCourse hnamed hknown, r.getD_foundUserId] at hfailed
  have hd : d.diagnostics = unresolved.toList ++ failed.toList := by
    rw [hlisted', hlisted, hnone]
    rfl
  refine ⟨unresolved, failed, hd, hunresolved, hfailed, ?_⟩
  unfold course
  rw [Course.acts_bind hnamed, Course.acts_bind hknown, Act.events_append, Act.events_append,
    List.filterMap_append, List.filterMap_append, hquiet, hlog, hlog', hd]
  rfl

theorem exists_failed_iff {failed : Option Failure} {A B : Prop} {F P : Failure → Prop}
    (h : ∀ e, failed = some e ↔ A ∧ B ∧ F e) (hF : ∀ e, P e → F e) :
    (∃ e, failed = some e ∧ P e) ↔ A ∧ B ∧ ∃ e, P e := by
  constructor
  · rintro ⟨e, he, hP⟩
    obtain ⟨hA, hB, _⟩ := (h e).1 he
    exact ⟨hA, hB, e, hP⟩
  · rintro ⟨hA, hB, e, hP⟩
    exact ⟨e, (h e).2 ⟨hA, hB, hF e hP⟩, hP⟩

theorem exists_diagnosis (h : (r.course identity request).ending = .ok d) :
    ∃ unresolved failed, r.Diagnosis identity request d unresolved failed := by
  obtain ⟨unresolved, failed, hlisted, hunresolved, hfailed, _⟩ := diagnosed_of_course h
  have hundecided : unresolved ≠ none ↔ nonempty? (r.foundUserId identity) = none := by
    rw [← exists_userIdFails_iff, Option.ne_none_iff_exists']
    exact exists_congr hunresolved
  refine ⟨unresolved, failed, hlisted, ?_, hunresolved, ?_, hfailed, ?_, ?_, ?_, ?_, ?_, ?_⟩
  · rw [hundecided, r.update_of_course h]
    exact Option.map_eq_none_iff.symm
  · exact fun e he => ((hunresolved e).1 he).isA
  · exact fun e _ hhost => hhost.isA
  · rw [← Collaborators.exists_hostFails_iff]
    exact exists_failed_iff hfailed fun _ => .inl
  · exact fun e _ hstore => hstore.isA
  · simp only [← Collaborators.exists_tenantFails_iff, ← Collaborators.exists_storeFails_iff]
    exact exists_failed_iff hfailed fun _ => .inr
  · intro organization tenant hr ht hanswers
    rw [Option.eq_none_iff_forall_ne_some]
    intro e he
    exact hanswers.not_searchFails hr ht ((hfailed e).1 he).2.2
  · intro hnone
    rw [hundecided]
    cases hf : nonempty? (r.foundUserId identity) with
    | none => rfl
    | some userId =>
        have hpublished : r.publishedUserId identity request = some userId := by
          unfold publishedUserId
          rw [filter_ne_empty, hf]
          rfl
        exact absurd ⟨hpublished, (nonempty?_eq_some_iff.1 hf).2⟩ (hnone userId)

namespace Diagnosis

variable {unresolved failed : Option Failure}

theorem mem_diagnostics (h : r.Diagnosis identity request d unresolved failed) {e : Failure} :
    e ∈ d.diagnostics ↔ unresolved = some e ∨ failed = some e := by
  rw [h.listed, List.mem_append, Option.mem_toList, Option.mem_toList]

/-- Where no collaborator raises a failure that is of the kinds of two steps, the kind of a
diagnostic tells which step it comes from. -/
theorem byKind (h : r.Diagnosis identity request d unresolved failed)
    (hc : r.collaborators.OfOneStep) : r.DiagnosisByKind identity request d := by
  obtain ⟨huserId, horganization, huserStore⟩ :
      .userId ∈ Failure.Kind.ofSteps ∧ .organization ∈ Failure.Kind.ofSteps ∧
        .userStore ∈ Failure.Kind.ofSteps := by decide
  have hunresolved : ∀ e, unresolved = some e →
      e.isA .organization = false ∧ e.isA .userStore = false := by
    intro e he
    have hfails := (h.unresolved_iff e).1 he
    have hone := hfails.ofOneStep hc
    exact ⟨hone.not_isA hfails.isA huserId horganization (by decide),
      hone.not_isA hfails.isA huserId huserStore (by decide)⟩
  have hfailed : ∀ e, failed = some e → e.isA .userId = false ∧
      (e.isA .organization = true ↔
        r.collaborators.HostFails identity.capabilities.residentOrganization e) ∧
      (e.isA .userStore = true ↔
        r.collaborators.StoreFails identity.capabilities.residentOrganization
          (r.publishedUserId identity request) e) := by
    intro e he
    rcases ((h.failed_iff e).1 he).2.2 with hhost | hstore
    · have hone := hhost.ofOneStep hc
      have hnot := hone.not_isA hhost.isA horganization huserStore (by decide)
      exact ⟨hone.not_isA hhost.isA horganization huserId (by decide),
        iff_of_true hhost.isA hhost, iff_of_false (by simp [hnot]) hhost.not_storeFails⟩
    · have hone := hstore.ofOneStep hc
      have hnot := hone.not_isA hstore.isA huserStore horganization (by decide)
      exact ⟨hone.not_isA hstore.isA huserStore huserId (by decide),
        iff_of_false (by simp [hnot]) fun hhost => hhost.not_storeFails hstore,
        iff_of_true hstore.isA hstore⟩
  refine ⟨?_, ?_, ?_⟩
  · rw [← h.unresolved_iff_undecided, Option.ne_none_iff_exists']
    constructor
    · rintro ⟨e, he, hk⟩
      rcases h.mem_diagnostics.1 he with he | he
      · exact ⟨e, he⟩
      · cases (hfailed e he).1.symm.trans hk
    · rintro ⟨e, he⟩
      exact ⟨e, h.mem_diagnostics.2 (.inl he), h.isA_userId e he⟩
  · rw [← h.organization_iff]
    constructor
    · rintro ⟨e, he, hk⟩
      rcases h.mem_diagnostics.1 he with he | he
      · cases (hunresolved e he).1.symm.trans hk
      · exact ⟨e, he, (hfailed e he).2.1.1 hk⟩
    · rintro ⟨e, he, hhost⟩
      exact ⟨e, h.mem_diagnostics.2 (.inr he), hhost.isA⟩
  · rw [← h.userStore_iff]
    constructor
    · rintro ⟨e, he, hk⟩
      rcases h.mem_diagnostics.1 he with he | he
      · cases (hunresolved e he).2.symm.trans hk
      · exact ⟨e, he, (hfailed e he).2.2.1 hk⟩
    · rintro ⟨e, he, hstore⟩
      exact ⟨e, h.mem_diagnostics.2 (.inr he), hstore.isA⟩

end Diagnosis

theorem error?_closing (request : RequestContext) (d? : Option Decision) :
    (Act.events (closing request d?)).filterMap Event.error? = [] :=
  filterMap_closing request (fun _ => rfl) d?

/-- The diagnostics of a call are the diagnosis of the decision that it makes, and the events of
level error that it logs tell of them one by one. A collaborator may raise a failure of the kinds of
two steps. Where none does, the diagnostics are told apart by their kinds too. -/
theorem resolve_diagnoses (r : Resolver) (hp : r.probe.Steady) (hc : r.collaborators.Recoverable)
    (outcome : Outcome) (ho : outcome.isSuccess = true) (identity : Identity) (s : Scene) :
    ∃ report t, r.resolve outcome (some identity) s = .ok report t ∧
      report.diagnostics.length ≤ 2 ∧
      (∃ d u unresolved failed, r.decision identity s.attempt.request s.trace = .ok d u ∧
        report.diagnostics = d.diagnostics ∧
        r.Diagnosis identity s.attempt.request d unresolved failed ∧
        (r.collaborators.OfOneStep → r.DiagnosisByKind identity s.attempt.request d)) ∧
      let events := Act.events (r.acts outcome (some identity) s.attempt.request)
      t.trace.log = s.trace.log ++ events.flatMap r.probe.kept ∧
        (events.filter fun event => event.level = .error).map Event.error? =
          report.diagnostics.map some := by
  obtain ⟨d, hd⟩ := r.exists_decision hc identity s.attempt.request
  have hx : (r.callCourse outcome (some identity) s.attempt.request).ending = .ok (some d) := by
    rw [callCourse_of_success ho, Course.ending_bind, hd]
    rfl
  have hpasses := Probe.passes_of_steady hp
  obtain ⟨unresolved, failed, hdiagnosis⟩ := exists_diagnosis hd
  obtain ⟨_, _, _, _, _, hlog⟩ := diagnosed_of_course hd
  have hdecision : r.decision identity s.attempt.request s.trace =
      .ok d (r.probe.traceOf s.trace (r.course identity s.attempt.request).acts) := by
    rw [decision_eq_follow, Course.follow_of_passes (hpasses _), hd]
  have hevents : (Act.events (r.acts outcome (some identity) s.attempt.request)).filterMap
      Event.error? = d.diagnostics := by
    have hcall : (r.callCourse outcome (some identity) s.attempt.request).acts =
        (r.course identity s.attempt.request).acts := by
      rw [callCourse_of_success ho, Course.acts_bind hd]
      exact List.append_nil _
    unfold acts
    rw [hx, hcall, Act.events_append, List.filterMap_append, hlog]
    dsimp only
    rw [error?_closing, List.append_nil]
  rw [resolve_of_passes (hpasses _), hx]
  refine ⟨_, _, rfl, ?_,
    ⟨d, _, unresolved, failed, hdecision, rfl, hdiagnosis, hdiagnosis.byKind⟩, rfl, ?_⟩
  · change d.diagnostics.length ≤ 2
    rw [hdiagnosis.listed]
    cases unresolved <;> cases failed <;> simp
  · rw [Event.map_error?_filter, hevents]
    rfl

/-- The failure of another step is recorded as caused by it, a failure of the step's own kind as
itself. -/
theorem resolve_diagnoses_both :
    let lost : Failure := .plain .organization "directory lost"
    let closed : Failure := .plain (.derived "StoreClosedError" .userStore) "closed"
    let r : Resolver :=
      { collaborators :=
          { tenantDomain := fun _ => .ok "hosting.org"
            tenantId := fun _ => .ok 7
            userStore := fun _ => .ok (some fun _ _ => .error closed)
            userId? := some fun _ _ _ => .error lost } }
    let identity : Identity :=
      { username := "alice", tenantDomain := some "acme.com"
        capabilities? := some
          { federated := true, accessingOrganization := some "org-7"
            residentOrganization := some "org-42" } }
    let s : Scene := ⟨{ request := { userId := some "uid-9" } }, {}⟩
    r.probe.Steady ∧ r.collaborators.Recoverable ∧ r.collaborators.OfOneStep ∧
      ∃ report t, r.resolve ⟨.success, none⟩ (some identity) s = .ok report t ∧
        report.diagnostics =
          [.because .userId "User id lookup failed: directory lost" lost, closed] ∧
        ∀ e ∈ report.diagnostics, e.isA .organization = false := by
  intro lost closed r identity s
  have hp : r.probe.Steady := Probe.steady_of_logger (fun _ _ => ⟨_, rfl⟩) rfl
  have hraised : ∀ call e, r.collaborators.Raises call e → e = closed ∨ e = lost := by
    intro call e h
    cases call <;> simp [Collaborators.Raises, r] at h
    · obtain ⟨_, _, rfl, rfl⟩ := h
      exact .inl rfl
    · exact .inr h.symm
  have hc : r.collaborators.Recoverable := by
    intro call e h
    rcases hraised call e h with rfl | rfl <;> rfl
  have hone : r.collaborators.OfOneStep := by
    have hclosed : ∀ a ∈ Failure.Kind.ofSteps, closed.isA a = true → a = .userStore := by decide
    intro call e h
    rcases hraised call e h with rfl | rfl
    · exact fun a ha b hb hka hkb => (hclosed a ha hka).trans (hclosed b hb hkb).symm
    · exact Failure.ofOneStep_of_kind (by decide)
  obtain ⟨report, t, hr, _, ⟨d, _, unresolved, failed, _, hd, hdiagnosis, hkinds⟩, _⟩ :=
    resolve_diagnoses r hp hc ⟨.success, none⟩ rfl identity s
  have hnone : ∀ userId, ¬ Gives identity.capabilities.userId userId := by
    rintro userId ⟨h, _⟩
    cases h
  have hgives : Gives identity.capabilities.residentOrganization "org-42" := ⟨rfl, by decide⟩
  have hkey : Gives (r.publishedUserId identity s.attempt.request) "uid-9" := ⟨rfl, by decide⟩
  have hhosts : r.collaborators.Hosts "org-42" 7 := ⟨_, rfl, rfl⟩
  have hraises : r.LookUpRaises identity lost := ⟨rfl, hnone, _, rfl, rfl⟩
  have hunresolved := (hdiagnosis.unresolved_iff _).2
    (.raised hraises (Failure.Becomes.caused rfl))
  have hfailed := (hdiagnosis.failed_iff _).2
    ⟨rfl, rfl, .inr (.tenant hgives hhosts (.store rfl hkey rfl (Failure.Becomes.same rfl)))⟩
  refine ⟨hp, hc, hone, report, t, hr, ?_, fun e he => ?_⟩
  · rw [hd, hdiagnosis.listed, hunresolved, hfailed]
    decide
  · rw [Bool.eq_false_iff]
    intro hk
    obtain ⟨_, _, hwant | ⟨_, _, hr, hraises⟩⟩ :=
      (hkinds hone).organization_iff.1 ⟨e, hd ▸ he, hk⟩
    · exact hwant _ hgives
    · cases hr.unique hgives
      exact hraises.not_hosts hhosts

/-- A failure of the kinds of two steps is recorded as itself by either, so its kind does not tell
which of them failed. -/
example :
    let lost : Failure := .plain (.mixed "TenantLostError" .organization .userStore) "tenant lost"
    let r : Resolver :=
      { collaborators :=
          { tenantDomain := fun _ => .error lost
            tenantId := fun _ => .ok 7
            userStore := fun _ => .ok none } }
    (r.searchCourse (some "org-42") none).ending = .ok (.failed lost) ∧
      lost.isA .organization = true ∧ lost.isA .userStore = true :=
  ⟨rfl, rfl, rfl⟩

end Resolver

end Principal
