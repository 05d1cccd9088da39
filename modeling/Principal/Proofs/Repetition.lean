import Principal.Proofs.PublishedContext

/-!
# Repeated resolution

A call reads the tenant domain of the request, and its user id where the identity has none of its
own. It leaves both as they were or as it would find them again, so on the context that it left the
same call takes the same course, and has nothing left to write.
-/

namespace Principal

theorem Course.bind_congr {α β : Type} {x : Course α} {f g : α → Course β}
    (h : ∀ a, x.ending = .ok a → f a = g a) : x >>= f = x >>= g := by
  cases hx : x.ending with
  | error e => rw [bind_of_error hx, bind_of_error hx]
  | ok a => rw [bind_of_ok hx, bind_of_ok hx, h a hx]

theorem Probe.name_of_mem_kept {p : Probe} {event : Event} {record : Record}
    (h : record ∈ p.kept event) : record.name = event.name := by
  rw [eq_of_mem_kept h]
  rfl

theorem Event.name_eq_iff_contextUpdated {event : Event} :
    event.name = "identity_request_context_updated" ↔ ∃ fields, event = .contextUpdated fields := by
  cases event <;> simp [Event.name]

namespace Resolver

variable {r : Resolver} {identity : Identity} {request request' : RequestContext}

/-- The search for the real username asks for the user id that the request is going to have. -/
theorem organizationCourse_congr {d : Decision}
    (hu : d.update.userId.getD request'.userId = d.update.userId.getD request.userId) :
    r.organizationCourse identity request' d = r.organizationCourse identity request d := by
  unfold organizationCourse
  dsimp only
  cases nonempty? identity.capabilities.accessingOrganization with
  | none => rfl
  | some accessing =>
      have hset : ((d.set .residentOrganization
          identity.capabilities.residentOrganization).update.get? .userId) = d.update.userId := rfl
      simp only [hset, hu]

theorem course_congr (ht : request'.tenantDomain = request.tenantDomain)
    (hu : r.publishedUserId identity request' = r.publishedUserId identity request) :
    r.course identity request' = r.course identity request := by
  have hn : r.usernameCourse identity request' {} = r.usernameCourse identity request {} := by
    unfold usernameCourse
    rw [ht]
  unfold course
  rw [hn]
  apply Course.bind_congr
  intro named hnamed
  apply Course.bind_congr
  intro known hknown
  apply organizationCourse_congr
  -- What has been decided of the user id so far is all that the first two steps hand on.
  rw [r.userId_of_userIdCourse hnamed hknown, r.getD_foundUserId, r.getD_foundUserId, hu]

theorem publishedUserId_published :
    r.publishedUserId identity (r.published identity request) =
      r.publishedUserId identity request := by
  change (nonempty? (r.foundUserId identity)).or (r.publishedUserId identity request) = _
  unfold publishedUserId
  rw [filter_ne_empty]
  cases nonempty? (r.foundUserId identity) <;> rfl

theorem course_overlay {d : Decision} (hd : (r.course identity request).ending = .ok d) :
    r.course identity (request.overlay d.update) = r.course identity request := by
  rw [r.overlay_of_course hd]
  exact course_congr rfl publishedUserId_published

section Calls

variable {outcome : Outcome} {identity? : Option Identity} {s t : Scene}

/-- On the context that it wrote a call takes the course that it took. -/
theorem callCourse_written {d? : Option Decision}
    (hd : (r.callCourse outcome identity? request).ending = .ok d?) :
    r.callCourse outcome identity? (written request d?) =
      r.callCourse outcome identity? request := by
  cases hs : skipReason? outcome identity? with
  | some reason => rw [callCourse_of_skipped hs, callCourse_of_skipped hs]
  | none =>
      obtain ⟨ho, hi⟩ := skipReason?_eq_none_iff.1 hs
      obtain ⟨identity, rfl⟩ := Option.ne_none_iff_exists'.1 hi
      rw [callCourse_of_success ho] at hd
      obtain ⟨d, hcourse, hd⟩ := Course.ending_bind_eq_ok.1 hd
      cases hd
      rw [callCourse_of_success ho, callCourse_of_success ho, written, course_overlay hcourse]

theorem closing_written (request : RequestContext) (d? : Option Decision) :
    closing (written request d?) d? = [] := by
  cases d? with
  | none => rfl
  | some d =>
      have hn : changedNames (request.overlay d.update) d = [] := by
        rw [changedNames, RequestContext.changes_overlay]
        rfl
      simp only [closing, written, hn, List.isEmpty_nil, if_true]

theorem written_written (request : RequestContext) (d? : Option Decision) :
    written (written request d?) d? = written request d? := by
  cases d? with
  | none => rfl
  | some d => exact request.overlay_overlay d.update

theorem reported_written (request : RequestContext) (d? : Option Decision) :
    reported (written request d?) d? = { reported request d? with updatedFields := [] } := by
  cases d? with
  | none => rfl
  | some d =>
      simp only [reported, changedNames, written, RequestContext.changes_overlay, List.map_nil]

theorem name_ne_of_mem_kept_callCourse {record : Record}
    (h : record ∈ (Act.events (r.callCourse outcome identity? request).acts).flatMap r.probe.kept) :
    record.name ≠ "identity_request_context_updated" := by
  obtain ⟨event, hevent, hkept⟩ := List.mem_flatMap.1 h
  have hdecision := (r.keeps_callCourse outcome identity? request).notes event hevent
  rw [Probe.name_of_mem_kept hkept]
  intro hname
  obtain ⟨fields, rfl⟩ := Event.name_eq_iff_contextUpdated.1 hname
  exact hdecision fields rfl

theorem name_of_mem_kept_closing {d? : Option Decision} {record : Record}
    (h : record ∈ (Act.events (closing request d?)).flatMap r.probe.kept) :
    record.name = "identity_request_context_updated" := by
  obtain ⟨event, hevent, hkept⟩ := List.mem_flatMap.1 h
  obtain ⟨fields, rfl⟩ := exists_fields_of_mem_events_closing request hevent
  exact Probe.name_of_mem_kept hkept

/-- What a call leaves in the log but for the record of the context being updated is what its course
leaves there. -/
theorem filter_kept_acts (r : Resolver) (outcome : Outcome) (identity? : Option Identity)
    (request : RequestContext) :
    ((Act.events (r.acts outcome identity? request)).flatMap r.probe.kept).filter
        (fun record => record.name ≠ "identity_request_context_updated") =
      (Act.events (r.callCourse outcome identity? request).acts).flatMap r.probe.kept := by
  have hcourse :
      ((Act.events (r.callCourse outcome identity? request).acts).flatMap r.probe.kept).filter
          (fun record => record.name ≠ "identity_request_context_updated") =
        (Act.events (r.callCourse outcome identity? request).acts).flatMap r.probe.kept := by
    refine List.filter_eq_self.2 fun record h => ?_
    exact decide_eq_true (name_ne_of_mem_kept_callCourse h)
  unfold acts
  rw [Act.events_append, List.flatMap_append, List.filter_append, hcourse]
  cases (r.callCourse outcome identity? request).ending with
  | error e => exact List.append_nil _
  | ok d? =>
      have hclosing : ((Act.events (closing request d?)).flatMap r.probe.kept).filter
          (fun record => record.name ≠ "identity_request_context_updated") = [] := by
        refine List.filter_eq_nil_iff.2 fun record h => ?_
        rw [decide_eq_true_eq, Decidable.not_not]
        exact name_of_mem_kept_closing h
      dsimp only
      rw [hclosing, List.append_nil]

/-- A second call does what the first one did up to its writing, and nothing after it. -/
theorem resolve_written {d? : Option Decision} (hp : r.probe.Steady)
    (hd : (r.callCourse outcome identity? s.attempt.request).ending = .ok d?) (u : Trace) :
    r.resolve outcome identity? ⟨{ s.attempt with request := written s.attempt.request d? }, u⟩ =
      .ok { reported s.attempt.request d? with updatedFields := [] }
        ⟨{ s.attempt with request := written s.attempt.request d? },
          r.probe.traceOf u (r.callCourse outcome identity? s.attempt.request).acts⟩ := by
  have hacts : r.acts outcome identity? (written s.attempt.request d?) =
      (r.callCourse outcome identity? s.attempt.request).acts := by
    unfold acts
    rw [callCourse_written hd, hd]
    dsimp only
    rw [closing_written, List.append_nil]
  rw [resolve_of_passes (Probe.passes_of_steady hp _)]
  dsimp only
  rw [hacts, callCourse_written hd, hd]
  dsimp only
  rw [reported_written, written_written]

/-- On the context that a call has left, the same call changes nothing. It reports the same but for
the fields, asks the same questions in the same order and logs the same records but for that of the
context being updated. A call that an interrupt ended is ended by it again. -/
theorem resolve_repeats (r : Resolver) (hp : r.probe.Steady) (outcome : Outcome)
    (identity? : Option Identity) (s : Scene) :
    (∀ report t, r.resolve outcome identity? s = .ok report t →
      ∃ calls records, t.trace.calls = s.trace.calls ++ calls ∧
        t.trace.log = s.trace.log ++ records ∧
        ∀ u, r.resolve outcome identity? ⟨t.attempt, u⟩ =
          .ok { report with updatedFields := [] }
            ⟨t.attempt,
              { calls := u.calls ++ calls
                log := u.log ++ records.filter
                  (fun record => record.name ≠ "identity_request_context_updated") }⟩) ∧
    (∀ e t, r.resolve outcome identity? s = .error e t →
      t.attempt = s.attempt ∧
        ∃ calls records, t.trace.calls = s.trace.calls ++ calls ∧
          t.trace.log = s.trace.log ++ records ∧
          ∀ u, r.resolve outcome identity? ⟨t.attempt, u⟩ =
            .error e ⟨t.attempt, { calls := u.calls ++ calls, log := u.log ++ records }⟩) ∧
    (r.collaborators.Recoverable → ∃ report t, r.resolve outcome identity? s = .ok report t) := by
  have hpasses := Probe.passes_of_steady hp
  refine ⟨?_, ?_, fun hc => resolve_returns hp hc outcome identity? s⟩
  · intro report t h
    obtain ⟨d?, hd, _, rfl, rfl⟩ := resolve_eq_ok h
    refine ⟨Act.calls (r.acts outcome identity? s.attempt.request),
      (Act.events (r.acts outcome identity? s.attempt.request)).flatMap r.probe.kept, rfl, rfl, ?_⟩
    intro u
    have hcalls : Act.calls (r.acts outcome identity? s.attempt.request) =
        Act.calls (r.callCourse outcome identity? s.attempt.request).acts := by
      unfold acts
      rw [hd, Act.calls_append]
      dsimp only
      rw [calls_closing, List.append_nil]
    rw [resolve_written hp hd, filter_kept_acts, hcalls]
    rfl
  · intro e t h
    rw [resolve_of_passes (hpasses _)] at h
    cases hx : (r.callCourse outcome identity? s.attempt.request).ending with
    | ok d? =>
        rw [hx] at h
        cases h
    | error e' =>
        rw [hx] at h
        cases h
        refine ⟨rfl, Act.calls (r.acts outcome identity? s.attempt.request),
          (Act.events (r.acts outcome identity? s.attempt.request)).flatMap r.probe.kept, rfl, rfl,
          ?_⟩
        intro u
        rw [resolve_of_passes (hpasses _)]
        dsimp only
        rw [hx]
        rfl

/-- The real username found by the user id that the request had before is found by it again. -/
theorem resolve_repeats_by_own_user_id :
    let bob : StoredUser := ⟨"uid-9", some "bob", none⟩
    let r : Resolver :=
      { collaborators :=
          { tenantDomain := fun _ => .ok "hosting.org"
            tenantId := fun _ => .ok 7
            userStore := fun _ =>
              .ok (some fun userId _ => .ok (if userId = "uid-9" then bob else none))
            userId? := some fun _ _ _ => .error (.plain .timeout "no answer") } }
    let identity : Identity :=
      { username := "alice", tenantDomain := some "acme.com", storeDomain := some "LDAP"
        capabilities? := some
          { federated := true, accessingOrganization := some "org-7"
            residentOrganization := some "org-42" } }
    let s : Scene :=
      ⟨{ request := { tenantDomain := some "acme.com", userId := some "uid-9" } }, {}⟩
    r.probe.Steady ∧ ∃ report t v,
      r.resolve ⟨.success, none⟩ (some identity) s = .ok report t ∧
        t.attempt.request = ⟨some "acme.com", some "bob", some "uid-9", some "org-42"⟩ ∧
        report.updatedFields = ["username", "resident_organization_id"] ∧
        report.diagnostics.length = 1 ∧ t.trace.calls.length = 5 ∧
        r.resolve ⟨.success, none⟩ (some identity) ⟨t.attempt, {}⟩ =
          .ok { report with updatedFields := [] } ⟨t.attempt, v⟩ ∧
        v.calls = t.trace.calls := by
  intro bob r identity s
  have hp : r.probe.Steady := Probe.steady_of_logger (fun _ _ => ⟨_, rfl⟩) rfl
  obtain ⟨report, t, hr, hreq, hfields, hdiagnostics, hcalls⟩ :
      ∃ report t, r.resolve ⟨.success, none⟩ (some identity) s = .ok report t ∧
        t.attempt.request = ⟨some "acme.com", some "bob", some "uid-9", some "org-42"⟩ ∧
        report.updatedFields = ["username", "resident_organization_id"] ∧
        report.diagnostics.length = 1 ∧ t.trace.calls.length = 5 := ⟨_, _, rfl, rfl, rfl, rfl, rfl⟩
  obtain ⟨calls, records, hc, _, hagain⟩ :=
    (resolve_repeats r hp ⟨.success, none⟩ (some identity) s).1 report t hr
  exact ⟨hp, report, t, _, hr, hreq, hfields, hdiagnostics, hcalls, hagain {}, hc.symm⟩

end Calls

end Resolver

end Principal
