import Principal.Proofs.Diagnosis
import Principal.Proofs.Qualification
import Principal.Proofs.Reporting
import Principal.Proofs.TenantSuffix

/-!
# Surrogate user ids

The username of an organization's user carries a user id, a domain in front of it and perhaps a
tenant behind. The tenant is taken off first, at the last tenant separator, and the domain then, at
the first domain separator, so separators within the user id do no harm; but what is taken for a
tenant depends on how many tenant separators the domain and the user id have together. The user id
found is what a call publishes, and a name that carries none is diagnosed.
-/

namespace Principal

namespace Username

variable {c : Char} {name domain tenant : String} {mailAddresses : Bool}

/-- A domain without the separator comes off whatever it stands in front of. -/
theorem withoutDomain_singleton_joined (hd : domain ≠ "") (hc : c ∉ domain.toList)
    (name : String) :
    withoutDomain (domain ++ String.singleton c ++ name) (String.singleton c) = name := by
  refine (withoutDomain_joined_iff ?_ hd name).2 ?_
  · exact mt String.toList_eq_nil_iff.2 (by simp)
  · rw [String.toList_singleton, List.dropLast_singleton, List.append_nil,
      List.singleton_infix_iff]
    exact hc

theorem count_toList_qualified {d : Char} (hdc : d ≠ c) (domain name : String) :
    (domain ++ String.singleton d ++ name).toList.count c = (domain ++ name).toList.count c := by
  rw [toList_joined, String.toList_singleton, String.toList_append, List.count_append,
    List.count_append, List.count_append, List.count_singleton, if_neg (by simpa using hdc),
    Nat.add_zero]

theorem withoutTenant_singleton_of_count_le
    (h : name.toList.count c ≤ ownSeparators mailAddresses) :
    withoutTenant name (String.singleton c) mailAddresses = name := by
  apply withoutTenant_of_count_le
  rwa [String.toList_singleton, Occurrence.count_singleton]

theorem count_toList_joined (hc : c ∉ tenant.toList) :
    (name ++ String.singleton c ++ tenant).toList.count c = name.toList.count c + 1 := by
  rw [toList_joined, String.toList_singleton, List.count_append, List.count_append,
    List.count_eq_zero.2 hc, List.count_singleton_self]

/-- A tenant without the separator comes off whatever it stands behind, if there are as many
separators before it as are the name's own. -/
theorem withoutTenant_singleton_joined (hc : c ∉ tenant.toList)
    (h : ownSeparators mailAddresses ≤ name.toList.count c) :
    withoutTenant (name ++ String.singleton c ++ tenant) (String.singleton c) mailAddresses =
      name := by
  have hcut := Occurrence.lastCut_singleton hc name.toList
  rw [← String.toList_singleton, ← toList_joined] at hcut
  rw [withoutTenant_of_lastCut ?_ hcut, String.ofList_toList]
  rw [String.toList_singleton, Occurrence.count_singleton, count_toList_joined hc]
  exact Nat.lt_succ_of_le h

end Username

namespace Resolver

open Username

section Recovery

variable {r : Resolver} {c d : Char} {domain : String}

theorem surrogate_of_tenant_iff (hd : r.domainSeparator = String.singleton d)
    (hc : r.tenantSeparator = String.singleton c) (hdc : d ≠ c) (hdomain : domain ≠ "")
    (hn : d ∉ domain.toList) (userId : String) {tenant : String} (ht : c ∉ tenant.toList) :
    r.surrogate
        (domain ++ String.singleton d ++ userId ++ String.singleton c ++ tenant) = userId ↔
      ownSeparators r.mailAddresses ≤ (domain ++ userId).toList.count c := by
  have hcount := count_toList_qualified hdc domain userId
  unfold surrogate
  rw [hd, hc, ← hcount]
  by_cases h : ownSeparators r.mailAddresses ≤
      (domain ++ String.singleton d ++ userId).toList.count c
  · rw [withoutTenant_singleton_joined ht h, withoutDomain_singleton_joined hdomain hn]
    exact iff_of_true rfl h
  · refine iff_of_false ?_ h
    -- The tenant is not told from the user id and stays behind it.
    rw [withoutTenant_singleton_of_count_le (by rw [count_toList_joined ht]; omega),
      String.append_assoc, String.append_assoc, withoutDomain_singleton_joined hdomain hn]
    intro he
    have hlen := congrArg String.length he
    simp only [String.length_append, String.length_singleton] at hlen
    omega

theorem surrogate_of_no_tenant (hd : r.domainSeparator = String.singleton d)
    (hc : r.tenantSeparator = String.singleton c) (hdc : d ≠ c) (hdomain : domain ≠ "")
    (hn : d ∉ domain.toList) {userId : String}
    (h : (domain ++ userId).toList.count c ≤ ownSeparators r.mailAddresses) :
    r.surrogate (domain ++ String.singleton d ++ userId) = userId := by
  rw [← count_toList_qualified hdc domain userId] at h
  unfold surrogate
  rw [hd, hc, withoutTenant_singleton_of_count_le h, withoutDomain_singleton_joined hdomain hn]

end Recovery

section Publication

variable {r : Resolver} {identity : Identity} {request : RequestContext}

theorem foundUserId_of_organizationUser (h : identity.capabilities.organizationUser = true) :
    r.foundUserId identity = some (r.surrogate identity.username) :=
  if_pos h

theorem publishedUserId_of_surrogate (h : identity.capabilities.organizationUser = true)
    (hu : r.surrogate identity.username ≠ "") (request : RequestContext) :
    r.publishedUserId identity request = some (r.surrogate identity.username) := by
  unfold publishedUserId
  rw [filter_ne_empty, foundUserId_of_organizationUser h, nonempty?_eq_some_iff.2 ⟨rfl, hu⟩]
  rfl

theorem nonempty?_foundUserId_of_no_surrogate (h : identity.capabilities.organizationUser = true)
    (hu : r.surrogate identity.username = "") : nonempty? (r.foundUserId identity) = none := by
  rw [foundUserId_of_organizationUser h, hu]
  rfl

/-- A username that carries no user id is diagnosed first, as one whose look-up gave nothing. -/
theorem head?_diagnostics_of_no_surrogate {d : Decision}
    (h : identity.capabilities.organizationUser = true)
    (hu : r.surrogate identity.username = "")
    (hd : (r.course identity request).ending = .ok d) :
    d.diagnostics.head? = some (noUserId identity) := by
  obtain ⟨unresolved, failed, hlisted, hunresolved, _⟩ := diagnosed_of_course hd
  have hquiet : ∀ cause, ¬ r.LookUpRaises identity cause := by
    rintro cause ⟨hno, _⟩
    rw [h] at hno
    cases hno
  have hfails : unresolved = some (noUserId identity) :=
    (hunresolved _).2 (.nothing hquiet
        (nonempty?_eq_none_iff.1 (nonempty?_foundUserId_of_no_surrogate h hu)))
  rw [hlisted, hfails]
  rfl

/-- A call publishes the user id that the username of an organization's user carries, or diagnoses
that it carries none, unless a collaborator interrupts the call, which then publishes nothing. -/
theorem resolve_publishes_surrogate (r : Resolver) (hp : r.probe.Steady) (outcome : Outcome)
    (ho : outcome.isSuccess = true) (identity : Identity)
    (h : identity.capabilities.organizationUser = true) (s : Scene) :
    (∃ report t, r.resolve outcome (some identity) s = .ok report t ∧
      (r.surrogate identity.username ≠ "" →
        t.attempt.request.userId = some (r.surrogate identity.username)) ∧
      (r.surrogate identity.username = "" →
        t.attempt.request.userId = s.attempt.request.userId ∧
          "user_id" ∉ report.updatedFields ∧
          report.diagnostics.head? = some (noUserId identity))) ∨
    ∃ call e t, r.collaborators.Interrupts call e ∧
      r.resolve outcome (some identity) s = .error e t ∧ t.attempt = s.attempt := by
  rw [resolve_of_passes (Probe.passes_of_steady hp _), callCourse_of_success ho,
    Course.ending_bind]
  cases hd : (r.course identity s.attempt.request).ending with
  | error e =>
      obtain ⟨_, call, _, he⟩ := (r.keeps_course identity s.attempt.request).fails e hd
      exact .inr ⟨call, e, _, he, rfl, rfl⟩
  | ok d =>
      have hoverlay := r.overlay_of_course hd
      refine .inl ⟨_, _, rfl, fun hu => ?_, fun hu => ?_⟩
      · change (s.attempt.request.overlay d.update).userId = _
        rw [hoverlay]
        exact publishedUserId_of_surrogate h hu _
      · have hsame : (s.attempt.request.overlay d.update).userId = s.attempt.request.userId := by
          rw [hoverlay]
          change (nonempty? (r.foundUserId identity)).or _ = _
          rw [nonempty?_foundUserId_of_no_surrogate h hu, Option.none_or]
        refine ⟨hsame, ?_, head?_diagnostics_of_no_surrogate h hu hd⟩
        intro hmem
        exact mem_changedNames_iff.1 hmem (congrArg some hsame)

end Publication

/-- The user id in a username qualified by a domain is recovered from in front of a tenant exactly
if the domain and it have together the tenant separators that are a name's own, and without a tenant
if they have no more. It is published whatever other user id the identity has. -/
theorem surrogate_recovered (r : Resolver) (d c : Char) (hdc : d ≠ c)
    (hd : r.domainSeparator = String.singleton d) (hc : r.tenantSeparator = String.singleton c)
    (domain : String) (hdomain : domain ≠ "") (hn : d ∉ domain.toList) (userId : String) :
    let own := if r.mailAddresses then 1 else 0
    let separators := domain.toList.count c + userId.toList.count c
    let qualified := domain ++ String.singleton d ++ userId
    (∀ tenant : String, c ∉ tenant.toList →
      (r.surrogate (qualified ++ String.singleton c ++ tenant) = userId ↔ own ≤ separators)) ∧
    (separators ≤ own → r.surrogate qualified = userId) ∧
    (r.probe.Steady → ∀ outcome : Outcome, outcome.isSuccess = true →
      ∀ identity : Identity, identity.capabilities.organizationUser = true →
        r.surrogate identity.username = userId → ∀ s : Scene,
          (∃ report t, r.resolve outcome (some identity) s = .ok report t ∧
            (userId ≠ "" → t.attempt.request.userId = some userId) ∧
            (userId = "" →
              t.attempt.request.userId = s.attempt.request.userId ∧
                "user_id" ∉ report.updatedFields ∧
                report.diagnostics.head? = some (noUserId identity))) ∨
          ∃ call e t, r.collaborators.Interrupts call e ∧
            r.resolve outcome (some identity) s = .error e t ∧ t.attempt = s.attempt) := by
  intro own separators qualified
  have hseparators : separators = (domain ++ userId).toList.count c := by
    rw [String.toList_append, List.count_append]
  rw [hseparators]
  refine ⟨fun tenant ht => ?_, fun h => ?_, ?_⟩
  · exact surrogate_of_tenant_iff hd hc hdc hdomain hn userId ht
  · exact surrogate_of_no_tenant hd hc hdc hdomain hn h
  · rintro hp outcome ho identity h rfl s
    exact resolve_publishes_surrogate r hp outcome ho identity h s

/-- A mail address with a domain separator in it is recovered with and without a tenant that has one
too. -/
theorem surrogate_recovered_from_mail_address :
    let r : Resolver :=
      { mailAddresses := true
        collaborators :=
          { tenantDomain := fun _ => .ok "hosting.org"
            tenantId := fun _ => .ok 7
            userStore := fun _ => .ok none } }
    let identity : Identity :=
      { username := "acme.com/u@b/7@host/a"
        capabilities? := some { userId := some "u-1", organizationUser := true } }
    let s : Scene := ⟨{}, {}⟩
    "acme.com" ≠ "" ∧ '/' ∉ "acme.com".toList ∧ '@' ∉ "host/a".toList ∧ r.probe.Steady ∧
      r.surrogate "acme.com/u@b/7" = "u@b/7" ∧ r.surrogate identity.username = "u@b/7" ∧
      ∃ report t, r.resolve ⟨.success, none⟩ (some identity) s = .ok report t ∧
        t.attempt.request.userId = some "u@b/7" := by
  intro r identity s
  have hp : r.probe.Steady := Probe.steady_of_logger (fun _ _ => ⟨_, rfl⟩) rfl
  have hn : '/' ∉ "acme.com".toList := by decide
  have ht : '@' ∉ "host/a".toList := by decide
  obtain ⟨hbefore, halone, hpublishes⟩ :=
    surrogate_recovered r '/' '@' (by decide) rfl rfl "acme.com" (by decide) hn "u@b/7"
  have hu : r.surrogate identity.username = "u@b/7" := (hbefore "host/a" ht).2 (by decide)
  refine ⟨by decide, hn, ht, hp, halone (by decide), hu, ?_⟩
  rcases hpublishes hp ⟨.success, none⟩ rfl identity rfl hu s with
    ⟨report, t, hr, hpublished, _⟩ | ⟨call, e, _, ⟨hraises, _⟩, _⟩
  · exact ⟨report, t, hr, hpublished (by decide)⟩
  · cases call <;> simp [Collaborators.Raises, r] at hraises

end Resolver

end Principal
