import Principal.Proofs.Handling

/-!
# All or nothing

A call of the resolver that raises has either written nothing or everything. What everything is
does not depend on the probe, so it is what the same call writes under a probe that never raises.
-/

namespace Principal

namespace Resolver

variable (r : Resolver)

/-- The attempt that a call leaves behind under another probe. -/
def attemptUnder (q : Probe) (outcome : Outcome) (identity? : Option Identity) (s : Scene) :
    Attempt :=
  (sceneAfter ({ r with probe := q }.resolve outcome identity?) s).attempt

theorem attemptUnder_of_steady {q : Probe} (hq : q.Steady) (outcome : Outcome)
    (identity? : Option Identity) (s : Scene) :
    r.attemptUnder q outcome identity? s =
      match (r.callCourse outcome identity? s.attempt.request).ending with
      | .ok d? => { s.attempt with request := written s.attempt.request d? }
      | .error _ => s.attempt := by
  unfold attemptUnder sceneAfter
  rw [resolve_of_passes (Probe.passes_of_steady hq _), callCourse_withProbe]
  cases (r.callCourse outcome identity? s.attempt.request).ending <;> rfl

variable {r : Resolver} {q : Probe} {outcome : Outcome} {identity? : Option Identity} {s t : Scene}

/-- A call that returns has written all that there is to write. -/
theorem attempt_of_resolve_eq_ok (hq : q.Steady) {report : Report}
    (h : r.resolve outcome identity? s = .ok report t) :
    t.attempt = r.attemptUnder q outcome identity? s := by
  rw [attemptUnder_of_steady r hq]
  rcases r.resolve_cases outcome identity? s with
    hp | ⟨_, _, _, _, _, _, _, hr⟩ | ⟨_, _, _, _, hr⟩
  · rw [resolve_of_passes hp] at h
    cases hx : (r.callCourse outcome identity? s.attempt.request).ending with
    | ok d? =>
        rw [hx] at h
        cases h
        rfl
    | error e =>
        rw [hx] at h
        cases h
  · rw [hr] at h
    cases h
  · rw [hr] at h
    cases h

/-- A call that raises does so at an event or a call before anything is written, or at the event
that tells of the writing. -/
theorem raised_of_resolve_eq_error (hq : q.Steady) {e : Failure}
    (h : r.resolve outcome identity? s = .error e t) :
    (∃ event handling u, event.OfDecision ∧
        (r.probe.amid handling).note event u = .error e t.trace ∧ t.attempt = s.attempt) ∨
      (∃ calls call, t.trace.calls = calls ++ [call] ∧ r.collaborators.Interrupts call e ∧
        t.attempt = s.attempt) ∨
      ∃ fields u, r.probe.note (.contextUpdated fields) u = .error e t.trace ∧
        t.attempt = r.attemptUnder q outcome identity? s := by
  have hk := r.keeps_callCourse outcome identity? s.attempt.request
  rcases r.resolve_cases outcome identity? s with
    hp | ⟨before, event, handling, after, e', ha, he, hr⟩ | ⟨d, e', hx, he, hr⟩
  · rw [resolve_of_passes hp] at h
    cases hx : (r.callCourse outcome identity? s.attempt.request).ending with
    | ok d? =>
        rw [hx] at h
        cases h
    | error e' =>
        simp only [hx, acts, List.append_nil] at h
        cases h
        obtain ⟨before, call, ha, hc⟩ := hk.fails e hx
        refine .inr (.inl ⟨s.trace.calls ++ Act.calls before, call, ?_, hc, rfl⟩)
        simp [ha, Probe.traceOf, Trace.called, Trace.logged]
  · rw [hr] at h
    cases h
    refine .inl ⟨event, handling, _, ?_, Probe.note_of_failure?_eq_some he _, rfl⟩
    apply hk.notes
    simp [ha]
  · rw [hr] at h
    cases h
    refine .inr (.inr ⟨_, _, Probe.note_of_failure?_eq_some he _, ?_⟩)
    rw [attemptUnder_of_steady r hq, hx]

theorem attempt_resolve (hq : q.Steady) :
    (sceneAfter (r.resolve outcome identity?) s).attempt = s.attempt ∨
      (sceneAfter (r.resolve outcome identity?) s).attempt =
        r.attemptUnder q outcome identity? s := by
  unfold sceneAfter
  cases h : r.resolve outcome identity? s with
  | ok report t => exact .inr (attempt_of_resolve_eq_ok hq h)
  | error e t =>
      rcases raised_of_resolve_eq_error hq h with
        ⟨_, _, _, _, _, ha⟩ | ⟨_, _, _, _, ha⟩ | ⟨_, _, _, ha⟩
      · exact .inl ha
      · exact .inl ha
      · exact .inr ha

/-- A call of the resolver leaves the attempt as it was or as it is under a probe that never
raises, and so does the handler around it. If the call raises, a note or a collaborator has raised,
and only a note of the event that tells of the writing raises once it is done. -/
theorem resolve_all_or_nothing (r : Resolver) (h : Handler) {q : Probe} (hq : q.Steady)
    (outcome : Outcome) (identity? : Option Identity) (s : Scene) :
    (∀ report t, r.resolve outcome identity? s = .ok report t →
      t.attempt = r.attemptUnder q outcome identity? s) ∧
    (∀ e t, r.resolve outcome identity? s = .error e t →
      (∃ event handling u, event.OfDecision ∧
          (r.probe.amid handling).note event u = .error e t.trace ∧ t.attempt = s.attempt) ∨
        (∃ calls call, t.trace.calls = calls ++ [call] ∧ r.collaborators.Interrupts call e ∧
          t.attempt = s.attempt) ∨
        ∃ fields u, r.probe.note (.contextUpdated fields) u = .error e t.trace ∧
          t.attempt = r.attemptUnder q outcome identity? s) ∧
    ((sceneAfter (h.postAuthenticate r.resolve outcome) s).attempt = s.attempt ∨
      (sceneAfter (h.postAuthenticate r.resolve outcome) s).attempt =
        r.attemptUnder q outcome s.attempt.identity? s) := by
  refine ⟨fun _ _ => attempt_of_resolve_eq_ok hq, fun _ _ => raised_of_resolve_eq_error hq, ?_⟩
  rw [Handler.attempt_postAuthenticate]
  exact attempt_resolve hq

/-- A log that raises on the record of the updated context does so with everything written. -/
theorem resolve_raises_once_written :
    let crash : Failure := .plain .interrupt "disk full"
    let r : Resolver :=
      { collaborators :=
          { tenantDomain := fun _ => .error (.plain .timeout "no answer")
            tenantId := fun _ => .ok 7
            userStore := fun _ => .ok none }
        probe := { logger := { fault? := fun record =>
          if record.name = "identity_request_context_updated" then some crash else none } } }
    let identity : Identity :=
      { username := "alice", tenantDomain := some "acme.com"
        capabilities? := some { userId := some "uid-1" } }
    let s : Scene := ⟨{ request := { tenantDomain := some "ACME.com" } }, {}⟩
    ({} : Probe).Steady ∧ ∃ t, r.resolve ⟨.success, none⟩ (some identity) s = .error crash t ∧
      t.attempt.request = ⟨some "ACME.com", some "alice", some "uid-1", none⟩ ∧
      t.attempt = r.attemptUnder {} ⟨.success, none⟩ (some identity) s := by
  intro crash r identity s
  have hq : ({} : Probe).Steady := Probe.steady_of_logger (fun _ _ => ⟨_, rfl⟩) rfl
  obtain ⟨t, hr, ht⟩ : ∃ t, r.resolve ⟨.success, none⟩ (some identity) s = .error crash t ∧
      t.attempt.request = ⟨some "ACME.com", some "alice", some "uid-1", none⟩ := ⟨_, rfl, rfl⟩
  refine ⟨hq, t, hr, ht, ?_⟩
  rcases (resolve_all_or_nothing r { name := "basic" } hq ⟨.success, none⟩ (some identity) s).2.1
    crash t hr with ⟨_, _, _, _, _, ha⟩ | ⟨_, _, _, _, ha⟩ | ⟨_, _, _, ha⟩
  · rw [ha] at ht
    cases ht
  · rw [ha] at ht
    cases ht
  · exact ha

end Resolver

end Principal
