import Mathlib.Data.List.Chain
import Principal.Proofs.Diagnosis

/-!
# Look-ups

Which questions a call puts to the collaborators: at most one to the index of user ids, and then
those of one search for the real username, each led to by the answer to the one before it. A call
that is cut short has put the first of these questions, in the same order.
-/

namespace Principal

namespace Course

variable {α β : Type}

def calls (x : Course α) : List Call :=
  Act.calls x.acts

theorem calls_ask (call : Call) (answer : Except Failure α) :
    (ask call answer).calls = [call] := rfl

theorem calls_note (event : Event) : (note event).calls = [] := rfl

theorem calls_caught (x : Course α) : x.caught.calls = x.calls := rfl

theorem calls_bind (x : Course α) (f : α → Course β) :
    (x >>= f).calls =
      x.calls ++ match x.ending with
        | .ok a => (f a).calls
        | .error _ => [] := by
  unfold calls
  cases h : x.ending with
  | error e =>
      rw [bind_of_error h]
      exact (List.append_nil _).symm
  | ok a =>
      rw [bind_of_ok h]
      exact Act.calls_append _ _

theorem calls_bind_of_silent {x : Course α} {f : α → Course β} (h : ∀ a, (f a).calls = []) :
    (x >>= f).calls = x.calls := by
  rw [calls_bind]
  cases x.ending with
  | error e => exact List.append_nil _
  | ok a =>
      dsimp only
      rw [h, List.append_nil]

/-- Where no call is made after a failure, it does not matter whether one is recovered from it. -/
theorem calls_caught_bind {x : Course α} {f : Except Failure α → Course β}
    (h : ∀ e, (f (.error e)).calls = []) :
    (x.caught >>= f).calls =
      x.calls ++ match x.ending with
        | .ok a => (f (.ok a)).calls
        | .error _ => [] := by
  rw [calls_bind, calls_caught]
  unfold caught
  cases x.ending with
  | ok a => rfl
  | error e => cases he : e.isRecoverable <;> simp [he, h]

end Course

/-- The place of a question in the order in which the questions are put. -/
def Call.rank : Call → Nat
  | userId .. => 0
  | tenantDomain _ => 1
  | tenantId _ => 2
  | userStore _ => 3
  | user .. => 4

namespace Collaborators

variable (c : Collaborators)

/-- The questions of a search for a user id in a tenant. -/
def tenantLookUps (tenant : Int) (userId : Option String) : List Call :=
  .userStore tenant ::
    match c.userStore tenant, userId.filter (· ≠ "") with
    | .ok (some _), some key => [.user key none]
    | _, _ => []

/-- The questions of a search for a user id in the tenant that hosts an organization. -/
def organizationLookUps (organization : String) (userId : Option String) : List Call :=
  .tenantDomain organization ::
    match c.tenantDomain organization with
    | .error _ => []
    | .ok domain =>
        .tenantId domain ::
          match c.tenantId domain with
          | .error _ => []
          | .ok tenant => c.tenantLookUps tenant userId

/-- The answer to a question leads to the next one. Any search may follow the look-up of a user id,
unless that is interrupted. -/
inductive Leads (userId : Option String) : Call → Call → Prop where
  | search {username organization : String} {tenantDomain storeDomain : Option String}
      (h : ∀ e, c.Raises (.userId username tenantDomain storeDomain) e → e.isRecoverable = true) :
      Leads userId (.userId username tenantDomain storeDomain) (.tenantDomain organization)
  | tenant {organization domain : String} (h : c.tenantDomain organization = .ok domain) :
      Leads userId (.tenantDomain organization) (.tenantId domain)
  | store {domain : String} {tenant : Int} (h : c.tenantId domain = .ok tenant) :
      Leads userId (.tenantId domain) (.userStore tenant)
  | user {tenant : Int} {find : UserStore} {key : String}
      (hs : c.userStore tenant = .ok (some find)) (hk : Gives userId key) :
      Leads userId (.userStore tenant) (.user key none)

variable {c} {userId : Option String} {call next : Call}

theorem isChain_tenantLookUps (tenant : Int) :
    (c.tenantLookUps tenant userId).IsChain (c.Leads userId) := by
  unfold tenantLookUps
  rw [filter_ne_empty]
  match hs : c.userStore tenant, hk : nonempty? userId with
  | .ok (some find), some key =>
      have hgives := nonempty?_eq_some_iff.1 hk
      exact List.isChain_cons_cons.2 ⟨.user hs hgives, List.isChain_singleton _⟩
  | .ok (some find), none => exact List.isChain_singleton _
  | .ok none, _ => exact List.isChain_singleton _
  | .error e, _ => exact List.isChain_singleton _

theorem isChain_organizationLookUps (organization : String) :
    (c.organizationLookUps organization userId).IsChain (c.Leads userId) := by
  unfold organizationLookUps
  cases hd : c.tenantDomain organization with
  | error e => exact List.isChain_singleton _
  | ok domain =>
      refine List.isChain_cons_cons.2 ⟨.tenant hd, ?_⟩
      cases ht : c.tenantId domain with
      | error e => exact List.isChain_singleton _
      | ok tenant => exact List.isChain_cons_cons.2 ⟨.store ht, isChain_tenantLookUps tenant⟩

theorem Leads.rank_lt (h : c.Leads userId call next) : call.rank < next.rank := by
  cases h <;> simp [Call.rank]

/-- Questions that lead to one another are never repeated. -/
theorem nodup_of_isChain {made : List Call} (h : made.IsChain (c.Leads userId)) : made.Nodup := by
  have hranks : (made.map Call.rank).IsChain (· < ·) :=
    List.isChain_map_of_isChain Call.rank (fun _ _ hl => hl.rank_lt) h
  refine (List.pairwise_map.1 hranks.pairwise).imp fun hlt heq => ?_
  rw [heq] at hlt
  exact Nat.lt_irrefl _ hlt

/-- Only a look-up of a user id may raise and yet be followed by another question. -/
theorem Leads.eq_userId_of_raises {e : Failure} (h : c.Leads userId call next)
    (he : c.Raises call e) :
    (∃ username tenantDomain storeDomain, call = .userId username tenantDomain storeDomain) ∧
      e.isRecoverable = true := by
  cases h with
  | search hr => exact ⟨⟨_, _, _, rfl⟩, hr e he⟩
  | tenant h => cases h.symm.trans he
  | store h => cases h.symm.trans he
  | user hs => cases hs.symm.trans he

/-- A user is asked for only in a store, under the user id searched for. -/
theorem mem_organizationLookUps_user {organization key : String} {storeDomain : Option String}
    (h : .user key storeDomain ∈ c.organizationLookUps organization userId) :
    storeDomain = none ∧ Gives userId key ∧
      ∃ tenant find, c.Hosts organization tenant ∧ c.userStore tenant = .ok (some find) := by
  unfold organizationLookUps at h
  cases hd : c.tenantDomain organization with
  | error e => simp [hd] at h
  | ok domain =>
      cases ht : c.tenantId domain with
      | error e => simp [hd, ht] at h
      | ok tenant =>
          unfold tenantLookUps at h
          rw [filter_ne_empty] at h
          match hs : c.userStore tenant, hk : nonempty? userId with
          | .ok (some find), some key' =>
              obtain ⟨rfl, rfl⟩ : key = key' ∧ storeDomain = none := by
                simpa [hd, ht, hs, hk] using h
              exact ⟨rfl, nonempty?_eq_some_iff.1 hk, tenant, find, ⟨domain, hd, ht⟩, hs⟩
          | .ok (some find), none => simp [hd, ht, hs, hk] at h
          | .ok none, _ => simp [hd, ht, hs] at h
          | .error e, _ => simp [hd, ht, hs] at h

end Collaborators

namespace Resolver

variable (r : Resolver)

/-- The question for the user id of an identity that carries none and does not have one for a
username, if there is an index to put it to. -/
def userIdLookUps (identity : Identity) : List Call :=
  if identity.capabilities.organizationUser = false ∧
      identity.capabilities.userId.filter (· ≠ "") = none ∧ r.collaborators.userId?.isSome then
    [.userId identity.username identity.tenantDomain identity.storeDomain]
  else []

/-- The questions for the real username of a federated identity that accesses an organization. -/
def usernameLookUps (identity : Identity) (request : RequestContext) : List Call :=
  if identity.capabilities.accessesOrganization ∧ identity.capabilities.federated then
    match identity.capabilities.residentOrganization.filter (· ≠ "") with
    | none => []
    | some organization =>
        r.collaborators.organizationLookUps organization (r.publishedUserId identity request)
  else []

/-- All the questions of a call. -/
def lookUps (outcome : Outcome) (identity? : Option Identity) (request : RequestContext) :
    List Call :=
  if outcome.isSuccess then
    match identity? with
    | none => []
    | some identity => r.userIdLookUps identity ++ r.usernameLookUps identity request
  else []

section Calls

variable {r} {identity : Identity} {request : RequestContext}

theorem calls_usernameCourse (d : Decision) : (r.usernameCourse identity request d).calls = [] := by
  unfold usernameCourse
  cases sameTenant identity.tenantDomain request.tenantDomain <;> rfl

theorem calls_findCourse : (r.findCourse identity).calls = r.userIdLookUps identity := by
  unfold findCourse lookUpCourse userIdLookUps
  rw [filter_ne_empty]
  cases identity.capabilities.organizationUser with
  | true => rfl
  | false =>
      cases nonempty? identity.capabilities.userId with
      | some userId => rfl
      | none => cases r.collaborators.userId? <;> rfl

theorem calls_userIdCourse (d : Decision) :
    (r.userIdCourse identity d).calls = r.userIdLookUps identity := by
  unfold userIdCourse
  rw [Course.calls_bind_of_silent, Course.calls_caught, calls_findCourse]
  intro found
  cases userIdOf identity found <;> rfl

/-- Only an interrupted look-up of the user id ends a call before the organization is looked at. -/
theorem ending_userIdCourse_eq_error {d : Decision} {e : Failure}
    (h : (r.userIdCourse identity d).ending = .error e) :
    r.LookUpRaises identity e ∧ e.isRecoverable = false := by
  have hcaught : (r.findCourse identity).caught.ending = .error e := by
    rcases Course.ending_bind_eq_error.1 h with hc | ⟨found, _, h⟩
    · exact hc
    · cases hu : userIdOf identity found with
      | ok userId =>
          rw [hu] at h
          cases h
      | error e' =>
          rw [hu] at h
          cases h
  unfold Course.caught at hcaught
  cases hx : (r.findCourse identity).ending with
  | ok found =>
      rw [hx] at hcaught
      cases hcaught
  | error e' =>
      cases hr : e'.isRecoverable with
      | true => simp [hx, hr] at hcaught
      | false =>
          obtain rfl : e' = e := by simpa [hx, hr] using hcaught
          exact ⟨ending_findCourse_eq_error_iff.1 hx, hr⟩

theorem calls_storeCourse (store : UserStore) (domain : String) (tenant : Int) (userId : String) :
    (storeCourse store domain tenant userId).calls = [.user userId none] := by
  unfold storeCourse
  rw [Course.calls_bind_of_silent, Course.calls_caught, Course.calls_ask]
  intro found
  cases found with
  | error e => rfl
  | ok user => cases h : nonempty? (user.bind (·.username)) <;> simp [h] <;> rfl

theorem calls_tenantCourse (domain : String) (tenant : Int) (userId : Option String) :
    (r.tenantCourse domain tenant userId).calls =
      r.collaborators.tenantLookUps tenant userId := by
  unfold tenantCourse Collaborators.tenantLookUps
  rw [filter_ne_empty]
  rw [Course.calls_caught_bind fun _ => rfl, Course.calls_ask, Course.ending_ask]
  match r.collaborators.userStore tenant with
  | .error e => rfl
  | .ok none => rfl
  | .ok (some store) =>
      dsimp only
      cases nonempty? userId with
      | none => rfl
      | some key =>
          dsimp only
          rw [calls_storeCourse]
          rfl

theorem calls_searchCourse (resident userId : Option String) :
    (r.searchCourse resident userId).calls =
      match nonempty? resident with
      | none => []
      | some organization => r.collaborators.organizationLookUps organization userId := by
  unfold searchCourse Collaborators.organizationLookUps
  cases nonempty? resident with
  | none => rfl
  | some organization =>
      dsimp only
      rw [Course.calls_caught_bind fun _ => rfl, ending_locateCourse, locateCourse,
        Course.calls_bind, Course.calls_ask, Course.ending_ask]
      cases r.collaborators.tenantDomain organization with
      | error e => rfl
      | ok domain =>
          dsimp only [Except.bind]
          rw [Course.calls_bind, Course.calls_ask, Course.ending_ask]
          cases r.collaborators.tenantId domain with
          | error e => rfl
          | ok tenant =>
              dsimp only [Except.map]
              rw [calls_tenantCourse]
              rfl

/-- Once the user id is decided, the search for the real username is for that user id. -/
theorem calls_organizationCourse {d : Decision}
    (hd : d.update.userId.getD request.userId = r.publishedUserId identity request) :
    (r.organizationCourse identity request d).calls = r.usernameLookUps identity request := by
  unfold organizationCourse usernameLookUps Capabilities.accessesOrganization
  rw [filter_ne_empty]
  dsimp only
  cases nonempty? identity.capabilities.accessingOrganization with
  | none => rfl
  | some accessing =>
      rw [Course.calls_bind, Course.calls_note]
      cases identity.capabilities.federated with
      | false => rfl
      | true =>
          dsimp only [Course.note]
          rw [if_pos rfl, Course.calls_bind_of_silent fun _ => rfl, calls_searchCourse, ← hd]
          simp only [Option.isSome_some, and_self, if_true, List.nil_append]
          rfl

/-- A call that is not skipped puts all of its questions unless the first one is interrupted. -/
theorem calls_course (r : Resolver) (identity : Identity) (request : RequestContext) :
    ((∀ e, r.LookUpRaises identity e → e.isRecoverable = true) ∧
        (r.course identity request).calls =
          r.userIdLookUps identity ++ r.usernameLookUps identity request) ∨
      ∃ e, r.LookUpRaises identity e ∧ e.isRecoverable = false ∧
        (r.course identity request).calls = r.userIdLookUps identity := by
  obtain ⟨named, hnamed⟩ : ∃ named, (r.usernameCourse identity request {}).ending = .ok named := by
    unfold usernameCourse
    cases sameTenant identity.tenantDomain request.tenantDomain <;> exact ⟨_, rfl⟩
  unfold course
  rw [Course.calls_bind, calls_usernameCourse, hnamed, List.nil_append]
  dsimp only
  rw [Course.calls_bind, calls_userIdCourse]
  cases hknown : (r.userIdCourse identity named).ending with
  | error e =>
      obtain ⟨hraises, he⟩ := ending_userIdCourse_eq_error hknown
      exact .inr ⟨e, hraises, he, List.append_nil _⟩
  | ok known =>
      refine .inl ⟨fun e hraises => ?_, ?_⟩
      · -- An interrupt is not caught, so the look-up would have ended the call.
        obtain ⟨found, hfound, _⟩ := Course.ending_bind_eq_ok.1 hknown
        have hx := ending_findCourse_eq_error_iff.2 hraises
        cases he : e.isRecoverable with
        | true => rfl
        | false => simp [Course.caught, hx, he] at hfound
      · dsimp only
        rw [calls_organizationCourse]
        rw [r.userId_of_userIdCourse hnamed hknown, r.getD_foundUserId]

end Calls

section Runs

variable {r} {outcome : Outcome} {identity? : Option Identity} {identity : Identity}
  {request : RequestContext}

theorem mem_userIdLookUps {call : Call} (h : call ∈ r.userIdLookUps identity) :
    call = .userId identity.username identity.tenantDomain identity.storeDomain ∧
      identity.capabilities.organizationUser = false ∧
      ∀ userId, ¬ Gives identity.capabilities.userId userId := by
  unfold userIdLookUps at h
  split at h
  case isTrue hneeded =>
    exact ⟨List.mem_singleton.1 h, hneeded.1, nonempty?_eq_none_iff.1 hneeded.2.1⟩
  case isFalse => exact absurd h List.not_mem_nil

theorem isChain_userIdLookUps {R : Call → Call → Prop} : (r.userIdLookUps identity).IsChain R := by
  unfold userIdLookUps
  split
  · exact List.isChain_singleton _
  · exact List.isChain_nil

theorem mem_usernameLookUps {call : Call} (h : call ∈ r.usernameLookUps identity request) :
    ∃ organization, Gives identity.capabilities.residentOrganization organization ∧
      call ∈ r.collaborators.organizationLookUps organization
        (r.publishedUserId identity request) := by
  unfold usernameLookUps at h
  rw [filter_ne_empty] at h
  split at h
  · cases ho : nonempty? identity.capabilities.residentOrganization with
    | none => simp [ho] at h
    | some organization =>
        rw [ho] at h
        exact ⟨organization, nonempty?_eq_some_iff.1 ho, h⟩
  · exact absurd h List.not_mem_nil

theorem isChain_usernameLookUps :
    (r.usernameLookUps identity request).IsChain
      (r.collaborators.Leads (r.publishedUserId identity request)) := by
  unfold usernameLookUps
  rw [filter_ne_empty]
  split
  · cases nonempty? identity.capabilities.residentOrganization with
    | none => exact List.isChain_nil
    | some organization => exact Collaborators.isChain_organizationLookUps organization
  · exact List.isChain_nil

theorem head?_usernameLookUps {call : Call}
    (h : call ∈ (r.usernameLookUps identity request).head?) :
    ∃ organization, call = .tenantDomain organization := by
  unfold usernameLookUps at h
  rw [filter_ne_empty] at h
  split at h
  · cases ho : nonempty? identity.capabilities.residentOrganization with
    | none => simp [ho] at h
    | some organization =>
        rw [ho] at h
        exact ⟨organization, (Option.mem_some.1 h).symm⟩
  · cases h

/-- Each question of a call is led to by the answer to the one before it. -/
theorem isChain_calls_course (r : Resolver) (identity : Identity) (request : RequestContext) :
    (r.course identity request).calls.IsChain
      (r.collaborators.Leads (r.publishedUserId identity request)) := by
  rcases r.calls_course identity request with ⟨hquiet, hcalls⟩ | ⟨_, _, _, hcalls⟩
  · rw [hcalls]
    refine List.isChain_append.2 ⟨isChain_userIdLookUps, isChain_usernameLookUps, ?_⟩
    intro call hcall next hnext
    obtain ⟨rfl, horganization, hcarried⟩ := mem_userIdLookUps (List.mem_of_getLast? hcall)
    obtain ⟨organization, rfl⟩ := head?_usernameLookUps hnext
    exact .search fun e he => hquiet e ⟨horganization, hcarried, he⟩
  · rw [hcalls]
    exact isChain_userIdLookUps

/-- The questions put by a call: the first of those of a call that nothing cuts short, each at most
once, and none after one whose collaborator raised, unless the index of user ids raised a failure
that is recovered from. A user is asked for only if the tenant has a store and the request is going
to have a user id. -/
structure LooksUp (r : Resolver) (outcome : Outcome) (identity? : Option Identity)
    (request : RequestContext) (made : List Call) : Prop where
  inOrder : made <+: r.lookUps outcome identity? request
  once : made.Nodup
  answered : ∀ before call after e, made = before ++ call :: after →
    r.collaborators.Raises call e →
      after = [] ∨
        (∃ username tenantDomain storeDomain, call = .userId username tenantDomain storeDomain) ∧
          e.isRecoverable = true
  stored : ∀ key storeDomain, .user key storeDomain ∈ made →
    storeDomain = none ∧ ∃ identity organization tenant find, identity? = some identity ∧
      Gives (r.publishedUserId identity request) key ∧
      Gives identity.capabilities.residentOrganization organization ∧
      r.collaborators.Hosts organization tenant ∧
      r.collaborators.userStore tenant = .ok (some find)

theorem looksUp_nil : r.LooksUp outcome identity? request [] where
  inOrder := List.nil_prefix
  once := List.nodup_nil
  answered before call after e h := by simp at h
  stored key storeDomain h := absurd h List.not_mem_nil

theorem lookUps_of_success (ho : outcome.isSuccess = true) :
    r.lookUps outcome (some identity) request =
      r.userIdLookUps identity ++ r.usernameLookUps identity request := by
  unfold lookUps
  rw [if_pos ho]

theorem lookUps_of_skipped {reason : String} (h : skipReason? outcome identity? = some reason) :
    r.lookUps outcome identity? request = [] := by
  unfold skipReason? at h
  unfold lookUps
  cases ho : outcome.isSuccess with
  | false => rfl
  | true =>
      cases identity? with
      | none => rfl
      | some identity =>
          rw [ho] at h
          cases h

theorem calls_course_isPrefix (ho : outcome.isSuccess = true) :
    (r.course identity request).calls <+: r.lookUps outcome (some identity) request := by
  rw [lookUps_of_success ho]
  rcases r.calls_course identity request with ⟨_, hcalls⟩ | ⟨_, _, _, hcalls⟩
  · exact ⟨[], by rw [hcalls, List.append_nil]⟩
  · exact ⟨r.usernameLookUps identity request, by rw [hcalls]⟩

theorem looksUp_of_isPrefix {made : List Call} (ho : outcome.isSuccess = true)
    (h : made <+: (r.course identity request).calls) :
    r.LooksUp outcome (some identity) request made := by
  have hchain := r.isChain_calls_course identity request
  have hplanned := h.trans (calls_course_isPrefix ho)
  obtain ⟨rest, hrest⟩ := h
  rw [← hrest] at hchain
  replace hchain := hchain.left_of_append
  refine ⟨hplanned, Collaborators.nodup_of_isChain hchain, ?_, ?_⟩
  · rintro before call after e rfl he
    cases after with
    | nil => exact .inl rfl
    | cons next rest =>
        obtain ⟨_, hleads, _⟩ := List.isChain_append_cons_cons.1 hchain
        exact .inr (hleads.eq_userId_of_raises he)
  · intro key storeDomain hmem
    have hmem := hplanned.subset hmem
    rw [lookUps_of_success ho, List.mem_append] at hmem
    rcases hmem with hmem | hmem
    · cases (mem_userIdLookUps hmem).1
    · obtain ⟨organization, hr, hmem⟩ := mem_usernameLookUps hmem
      obtain ⟨hdomain, hkey, tenant, find, hhosts, hs⟩ :=
        Collaborators.mem_organizationLookUps_user hmem
      exact ⟨hdomain, identity, organization, tenant, find, rfl, hkey, hr, hhosts, hs⟩

/-- The questions put before a call ended, however it did. -/
theorem exists_calls (r : Resolver) (outcome : Outcome) (identity? : Option Identity) (s : Scene) :
    ∃ made, (sceneAfter (r.resolve outcome identity?) s).trace.calls = s.trace.calls ++ made ∧
      made <+: (r.callCourse outcome identity? s.attempt.request).calls ∧
      (made = (r.callCourse outcome identity? s.attempt.request).calls ∨
        ∃ event handling e t, (r.probe.amid handling).failure? event = some e ∧
          r.resolve outcome identity? s = .error e t) := by
  unfold sceneAfter
  rcases r.resolve_cases outcome identity? s with
    hp | ⟨before, event, handling, after, e, ha, he, hr⟩ | ⟨d, e, _, he, hr⟩
  · refine ⟨_, ?_, List.prefix_rfl, .inl rfl⟩
    rw [resolve_of_passes hp]
    unfold acts
    cases hx : (r.callCourse outcome identity? s.attempt.request).ending with
    | error e =>
        dsimp only [Probe.traceOf, Trace.logged, Trace.called]
        rw [List.append_nil]
        rfl
    | ok d? =>
        dsimp only [Probe.traceOf, Trace.logged, Trace.called]
        rw [Act.calls_append, calls_closing, List.append_nil]
        rfl
  · rw [hr]
    refine ⟨Act.calls before, rfl, ?_, .inr ⟨event, handling, e, _, he, rfl⟩⟩
    unfold Course.calls
    rw [ha, Act.calls_append]
    exact List.prefix_append _ _
  · rw [hr]
    exact ⟨_, rfl, List.prefix_rfl, .inl rfl⟩

/-- Every call puts its questions in order, each at most once, and puts all of them unless the
look-up of the user id was interrupted or a note raised. -/
theorem resolve_looks_up (r : Resolver) (outcome : Outcome) (identity? : Option Identity)
    (s : Scene) :
    ∃ made, (sceneAfter (r.resolve outcome identity?) s).trace.calls = s.trace.calls ++ made ∧
      r.LooksUp outcome identity? s.attempt.request made ∧
      (made = r.lookUps outcome identity? s.attempt.request ∨
        (∃ identity e, identity? = some identity ∧ r.LookUpRaises identity e ∧
          e.isRecoverable = false ∧ made = r.userIdLookUps identity) ∨
        ∃ event handling e t, (r.probe.amid handling).failure? event = some e ∧
          r.resolve outcome identity? s = .error e t) := by
  obtain ⟨made, hmade, hprefix, hcomplete⟩ := r.exists_calls outcome identity? s
  refine ⟨made, hmade, ?_⟩
  cases hs : skipReason? outcome identity? with
  | some reason =>
      rw [callCourse_of_skipped hs] at hprefix
      obtain rfl : made = [] := List.prefix_nil.1 hprefix
      exact ⟨looksUp_nil, .inl (lookUps_of_skipped hs).symm⟩
  | none =>
      obtain ⟨ho, hi⟩ := skipReason?_eq_none_iff.1 hs
      obtain ⟨identity, rfl⟩ := Option.ne_none_iff_exists'.1 hi
      rw [callCourse_of_success ho, Course.calls_bind_of_silent fun _ => rfl] at hprefix hcomplete
      refine ⟨looksUp_of_isPrefix ho hprefix, ?_⟩
      rcases hcomplete with rfl | hraises
      · rcases r.calls_course identity s.attempt.request with
          ⟨_, hcalls⟩ | ⟨e, hraises, he, hcalls⟩
        · exact .inl (hcalls.trans (lookUps_of_success ho).symm)
        · exact .inr (.inl ⟨identity, e, rfl, hraises, he, hcalls⟩)
      · exact .inr (.inr hraises)

end Runs

end Resolver

end Principal
