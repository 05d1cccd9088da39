import Principal.Proofs.Interruption
import Principal.Proofs.Overlay

/-!
# Publishing

A call of the resolver follows its course, then writes the decision into the request context, and
then, if a field has changed, notes that. The acts of a call are those it does if no note raises.
A call either does all of its acts, or raises at the first event whose note raises; only the last
event of all comes after the writing.
-/

namespace Principal

/-- The scene that a computation leaves behind, whether it returns or raises. -/
def sceneAfter {α : Type} (x : Staged α) (s : Scene) : Scene :=
  match x s with
  | .ok _ t => t
  | .error _ t => t

theorem sceneAfter_of_ok {α : Type} {x : Staged α} {s t : Scene} {a : α} (h : x s = .ok a t) :
    sceneAfter x s = t := by
  unfold sceneAfter
  rw [h]

namespace Traced
variable {α β : Type}

@[simp] theorem staged_pure (a : α) : Traced.staged (pure a) = pure a := rfl

@[simp] theorem staged_bind (x : Traced α) (f : α → Traced β) :
    Traced.staged (x >>= f) = (x.staged >>= fun a => (f a).staged) := by
  funext s
  simp only [staged, bind, EStateM.bind]
  cases x s.trace <;> rfl

@[simp] theorem staged_map (f : α → β) (x : Traced α) :
    Traced.staged (f <$> x) = f <$> x.staged := by
  rw [← bind_pure_comp, staged_bind, ← bind_pure_comp]
  rfl

end Traced

namespace Resolver

variable (r : Resolver)

/-- What a call does before it writes. A call that is skipped decides nothing. -/
def callCourse (outcome : Outcome) (identity? : Option Identity) (request : RequestContext) :
    Course (Option Decision) :=
  if outcome.isSuccess then
    match identity? with
    | some identity => do
        let d ← r.course identity request
        return some d
    | none => do
        Course.note (.resolutionSkipped "no_identity")
        return none
  else do
    Course.note (.resolutionSkipped "authentication_not_successful")
    return none

/-- No course mentions the probe, so a resolver with another probe takes the same one. -/
theorem callCourse_withProbe (p : Probe) : { r with probe := p }.callCourse = r.callCourse := rfl

theorem keeps_callCourse (outcome : Outcome) (identity? : Option Identity)
    (request : RequestContext) :
    (r.callCourse outcome identity? request).Keeps Event.OfDecision r.collaborators.Interrupts := by
  unfold callCourse
  cases outcome.isSuccess with
  | false => exact Course.keeps_noted nofun _
  | true =>
      cases identity? with
      | none => exact Course.keeps_noted nofun _
      | some identity => exact (r.keeps_course identity request).bind fun _ _ => Course.keeps_pure _

theorem exists_decision? (hc : r.collaborators.Recoverable) (outcome : Outcome)
    (identity? : Option Identity) (request : RequestContext) :
    ∃ d?, (r.callCourse outcome identity? request).ending = .ok d? :=
  (r.keeps_callCourse outcome identity? request).exists_ending hc

section Skipped

variable {r} {outcome : Outcome} {identity? : Option Identity} {request : RequestContext}

/-- Why a call is skipped, if it is. -/
def skipReason? (outcome : Outcome) (identity? : Option Identity) : Option String :=
  if outcome.isSuccess then
    match identity? with
    | some _ => none
    | none => some "no_identity"
  else some "authentication_not_successful"

theorem skipReason?_eq_none_iff {outcome : Outcome} {identity? : Option Identity} :
    skipReason? outcome identity? = none ↔ outcome.isSuccess = true ∧ identity? ≠ none := by
  unfold skipReason?
  cases outcome.isSuccess <;> cases identity? <;> simp

/-- The course of a call that is skipped. -/
theorem callCourse_of_skipped {reason : String} (h : skipReason? outcome identity? = some reason) :
    r.callCourse outcome identity? request = ⟨[.event (.resolutionSkipped reason)], .ok none⟩ := by
  unfold skipReason? at h
  unfold callCourse
  cases ho : outcome.isSuccess with
  | false =>
      rw [ho] at h
      cases h
      rfl
  | true =>
      cases identity? with
      | none =>
          rw [ho] at h
          cases h
          rfl
      | some identity =>
          rw [ho] at h
          cases h

/-- The course of a call that is not skipped is that of its decisions. -/
theorem callCourse_of_success (ho : outcome.isSuccess = true) (identity : Identity) :
    r.callCourse outcome (some identity) request =
      (r.course identity request >>= fun d => pure (some d)) := by
  unfold callCourse
  rw [if_pos ho]

/-- A call that is not skipped ends, if it does, in a decision. -/
theorem exists_some_of_ending_callCourse (h : skipReason? outcome identity? = none)
    {d? : Option Decision} (hd : (r.callCourse outcome identity? request).ending = .ok d?) :
    ∃ d, d? = some d := by
  obtain ⟨ho, hi⟩ := skipReason?_eq_none_iff.1 h
  obtain ⟨identity, rfl⟩ := Option.ne_none_iff_exists'.1 hi
  rw [callCourse_of_success ho] at hd
  obtain ⟨d, _, hd⟩ := Course.ending_bind_eq_ok.1 hd
  exact ⟨d, (Except.ok.inj hd).symm⟩

end Skipped

section Decided

variable (request : RequestContext)

def written : Option Decision → RequestContext
  | none => request
  | some d => request.overlay d.update

def changedNames (d : Decision) : List String :=
  (request.changes d.update).map (·.name)

/-- What a call does after it has written. -/
def closing : Option Decision → List Act
  | none => []
  | some d =>
      if (changedNames request d).isEmpty then []
      else [.event (.contextUpdated (changedNames request d))]

theorem eq_contextUpdated_of_closing {d? : Option Decision} {before after : List Act}
    {event : Event} {handling : Bool}
    (h : closing request d? = before ++ .event event handling :: after) :
    ∃ d, d? = some d ∧ before = [] ∧ event = .contextUpdated (changedNames request d) ∧
      handling = false := by
  cases d? with
  | none => simp [closing] at h
  | some d =>
      refine ⟨d, rfl, ?_⟩
      cases he : (changedNames request d).isEmpty with
      | true => simp [closing, he] at h
      | false =>
          simp only [closing, he, Bool.false_eq_true, if_false, List.singleton_eq_append_iff] at h
          simp only [List.cons_ne_nil, and_false, or_false, List.cons.injEq, Act.event.injEq] at h
          exact ⟨h.1, h.2.1.1, h.2.1.2⟩

theorem exists_fields_of_mem_events_closing {d? : Option Decision} {event : Event}
    (h : event ∈ Act.events (closing request d?)) : ∃ fields, event = .contextUpdated fields := by
  obtain ⟨handling, hact⟩ := Act.mem_events.1 h
  obtain ⟨before, after, ha⟩ := List.append_of_mem hact
  obtain ⟨d, _, _, rfl, _⟩ := eq_contextUpdated_of_closing request ha
  exact ⟨_, rfl⟩

/-- What an event tells of decisions is not in the closing of a call. -/
theorem filterMap_closing {α : Type} {f : Event → Option α}
    (hf : ∀ fields, f (.contextUpdated fields) = none) (d? : Option Decision) :
    (Act.events (closing request d?)).filterMap f = [] := by
  refine List.filterMap_eq_nil_iff.2 fun event hevent => ?_
  obtain ⟨fields, rfl⟩ := exists_fields_of_mem_events_closing request hevent
  exact hf fields

theorem calls_closing (d? : Option Decision) :
    Act.calls (closing request d?) = [] := by
  cases d? with
  | none => rfl
  | some d =>
      cases h : (changedNames request d).isEmpty with
      | true => simp only [closing, h, if_true, Act.calls_nil]
      | false =>
          simp only [closing, h, Bool.false_eq_true, if_false, Act.calls_event, Act.calls_nil]

def reported : Option Decision → Report
  | none => .skipped
  | some d =>
      { applied := true, updatedFields := changedNames request d, diagnostics := d.diagnostics }

end Decided

/-- All that a call does if no note raises. -/
def acts (outcome : Outcome) (identity? : Option Identity) (request : RequestContext) : List Act :=
  (r.callCourse outcome identity? request).acts ++
    match (r.callCourse outcome identity? request).ending with
    | .ok d? => closing request d?
    | .error _ => []

theorem acts_of_ending {r : Resolver} {outcome : Outcome} {identity? : Option Identity}
    {request : RequestContext} {d? : Option Decision}
    (h : (r.callCourse outcome identity? request).ending = .ok d?) :
    r.acts outcome identity? request =
      (r.callCourse outcome identity? request).acts ++ closing request d? := by
  unfold acts
  rw [h]

theorem acts_withProbe (p : Probe) : { r with probe := p }.acts = r.acts := rfl

/-- Writes what was decided and closes the call. -/
def settle (d? : Option Decision) : Staged Report := fun s =>
  let attempt := { s.attempt with request := written s.attempt.request d? }
  match r.probe.perform (closing s.attempt.request d?) s.trace with
  | .ok _ t => .ok (reported s.attempt.request d?) ⟨attempt, t⟩
  | .error e t => .error e ⟨attempt, t⟩

theorem settle_none : r.settle none = pure .skipped := rfl

theorem settle_some (d : Decision) :
    r.settle (some d) = do
      let changed ← commit d.update
      if !changed.isEmpty then (r.probe.note (.contextUpdated changed)).staged
      return { applied := true, updatedFields := changed, diagnostics := d.diagnostics } := by
  funext s
  have hc : commit d.update s = .ok (changedNames s.attempt.request d)
      ⟨{ s.attempt with request := s.attempt.request.overlay d.update }, s.trace⟩ := by
    simp only [commit, RequestContext.apply_eq, changedNames]
  simp only [settle, bind, EStateM.bind, hc, written, reported, closing]
  cases (changedNames s.attempt.request d).isEmpty with
  | true => rfl
  | false =>
      simp only [Bool.not_false, if_true, Bool.false_eq_true, if_false, Traced.staged,
        Probe.perform, Probe.amid_false, bind, EStateM.bind]
      cases r.probe.note (.contextUpdated (changedNames s.attempt.request d)) s.trace <;> rfl

theorem publish_eq (identity : Identity) (s : Scene) :
    r.publish identity s =
      (((r.course identity s.attempt.request).follow r.probe).staged >>=
        fun d => r.settle (some d)) s := by
  rw [← decision_eq_follow]
  simp only [settle_some]
  rfl

theorem resolve_eq (outcome : Outcome) (identity? : Option Identity) (s : Scene) :
    r.resolve outcome identity? s =
      (((r.callCourse outcome identity? s.attempt.request).follow r.probe).staged >>=
        r.settle) s := by
  unfold resolve callCourse
  cases outcome.isSuccess with
  | false => simp [skip, settle_none]
  | true =>
      cases identity? with
      | none => simp [skip, settle_none]
      | some identity => simp [publish_eq]

section Cases

variable {r} {outcome : Outcome} {identity? : Option Identity} {s : Scene}

theorem resolve_of_passes
    (h : r.probe.Passes (r.acts outcome identity? s.attempt.request)) :
    r.resolve outcome identity? s =
      match (r.callCourse outcome identity? s.attempt.request).ending with
      | .ok d? =>
          .ok (reported s.attempt.request d?)
            ⟨{ s.attempt with request := written s.attempt.request d? },
              r.probe.traceOf s.trace (r.acts outcome identity? s.attempt.request)⟩
      | .error e =>
          .error e
            ⟨s.attempt, r.probe.traceOf s.trace (r.acts outcome identity? s.attempt.request)⟩ := by
  unfold acts at h ⊢
  rw [Probe.passes_append] at h
  rw [resolve_eq]
  simp only [bind, EStateM.bind, Traced.staged, Course.follow_of_passes h.1]
  cases he : (r.callCourse outcome identity? s.attempt.request).ending with
  | error e => simp
  | ok d? =>
      rw [he] at h
      simp only [settle, Probe.perform_of_passes h.2, Probe.traceOf_append]

/-- A call returns if notes do not raise and collaborators raise only recoverable failures. -/
theorem resolve_returns (hp : r.probe.Steady) (hc : r.collaborators.Recoverable)
    (outcome : Outcome) (identity? : Option Identity) (s : Scene) :
    ∃ report t, r.resolve outcome identity? s = .ok report t := by
  obtain ⟨d?, hd⟩ := r.exists_decision? hc outcome identity? s.attempt.request
  rw [resolve_of_passes (Probe.passes_of_steady hp _), hd]
  exact ⟨_, _, rfl⟩

/-- A call that does not do all of its acts raises at an event before anything is written, or
where it notes, once everything is written, that the context was updated. -/
theorem resolve_cases (r : Resolver) (outcome : Outcome) (identity? : Option Identity)
    (s : Scene) :
    r.probe.Passes (r.acts outcome identity? s.attempt.request) ∨
      (∃ before event handling after e,
        (r.callCourse outcome identity? s.attempt.request).acts =
          before ++ .event event handling :: after ∧
        (r.probe.amid handling).failure? event = some e ∧
        r.resolve outcome identity? s =
          .error e ⟨s.attempt, (r.probe.traceOf s.trace before).logged (r.probe.kept event)⟩) ∨
      ∃ d e,
        let x := r.callCourse outcome identity? s.attempt.request
        let names := changedNames s.attempt.request d
        x.ending = .ok (some d) ∧ r.probe.failure? (.contextUpdated names) = some e ∧
          r.resolve outcome identity? s =
            .error e ⟨{ s.attempt with request := written s.attempt.request (some d) },
              (r.probe.traceOf s.trace x.acts).logged (r.probe.kept (.contextUpdated names))⟩ := by
  rcases Probe.perform_cases r.probe (r.callCourse outcome identity? s.attempt.request).acts
    s.trace with hp | ⟨before, event, handling, after, e, ha, _, he, hr⟩
  · unfold acts
    rw [Probe.passes_append]
    cases hx : (r.callCourse outcome identity? s.attempt.request).ending with
    | error e => exact .inl ⟨hp, Probe.passes_nil⟩
    | ok d? =>
        rcases Probe.perform_cases r.probe (closing s.attempt.request d?)
          (r.probe.traceOf s.trace (r.callCourse outcome identity? s.attempt.request).acts)
          with hc | ⟨before, event, handling, after, e, ha, _, he, hr⟩
        · exact .inl ⟨hp, hc⟩
        · obtain ⟨d, rfl, rfl, rfl, rfl⟩ := eq_contextUpdated_of_closing _ ha
          refine .inr (.inr ⟨d, e, hx, he, ?_⟩)
          rw [resolve_eq]
          simp only [bind, EStateM.bind, Traced.staged, Course.follow_of_passes hp, hx, settle, hr,
            Probe.traceOf_nil]
  · refine .inr (.inl ⟨before, event, handling, after, e, ha, he, ?_⟩)
    rw [resolve_eq]
    simp only [bind, EStateM.bind, Traced.staged, Course.follow, hr]

/-- A call that returns has done all of its acts, written its decision and reports it. -/
theorem resolve_eq_ok {report : Report} {t : Scene}
    (h : r.resolve outcome identity? s = .ok report t) :
    ∃ d?, (r.callCourse outcome identity? s.attempt.request).ending = .ok d? ∧
      r.probe.Passes (r.acts outcome identity? s.attempt.request) ∧
      report = reported s.attempt.request d? ∧
      t = ⟨{ s.attempt with request := written s.attempt.request d? },
        r.probe.traceOf s.trace (r.acts outcome identity? s.attempt.request)⟩ := by
  rcases r.resolve_cases outcome identity? s with
    hp | ⟨_, _, _, _, _, _, _, hr⟩ | ⟨_, _, _, _, hr⟩
  · rw [resolve_of_passes hp] at h
    cases hx : (r.callCourse outcome identity? s.attempt.request).ending with
    | error e =>
        rw [hx] at h
        cases h
    | ok d? =>
        rw [hx] at h
        cases h
        exact ⟨d?, rfl, hp, rfl, rfl⟩
  · rw [hr] at h
    cases h
  · rw [hr] at h
    cases h

end Cases

end Resolver

end Principal
