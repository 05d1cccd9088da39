import Principal.Proofs.Metadata
import Principal.Proofs.Verdict

/-!
# Recovery

The handler recovers from a failure of the publication by noting it, so it raises in turn where that
note does. What a call of the resolver raises over recoverable collaborators is the failure of the
first of its events whose note raises.
-/

namespace Principal

/-- The logger raises nothing but recoverable failures. -/
def Logger.Recoverable (l : Logger) : Prop :=
  ∀ record e, l.fault? record = some e → e.isRecoverable = true

theorem Sink.isRecoverable_of_refusal? {s : Sink} {level : Level} {names : List String}
    {e : Failure} (h : s.refusal? level names = some e) : e.isRecoverable = true := by
  obtain ⟨part, _, hpart⟩ := List.exists_of_findSome?_eq_some h
  obtain ⟨name, _, rfl⟩ := Option.map_eq_some_iff.1 hpart
  rfl

theorem Logger.Recoverable.isRecoverable {l : Logger} (hl : l.Recoverable) {record : Record}
    {e : Failure} (h : l.failure? record = some e) : e.isRecoverable = true := by
  unfold failure? at h
  cases hr : l.refusal? record.level (Fields.keys record.fields) with
  | some e' =>
      rw [hr] at h
      cases h
      exact Sink.isRecoverable_of_refusal? hr
  | none =>
      rw [hr] at h
      by_cases ha : l.admits record.level = true
      · exact hl _ _ ((if_pos ha).symm.trans h)
      · cases (if_neg ha).symm.trans h

namespace Probe

variable {p : Probe} {event : Event} {acts : List Act} {e : Failure}

theorem isRecoverable_of_failure? (hl : p.logger.Recoverable) (h : p.failure? event = some e) :
    e.isRecoverable = true := by
  unfold failure? at h
  cases hc : p.clash? event with
  | some key =>
      rw [hc] at h
      cases h
      exact Sink.isRecoverable_repeated _ _ _ _
  | none =>
      rw [hc] at h
      exact hl.isRecoverable h

/-- The failure that noting an act makes, if it is an event. -/
def failureAt? (p : Probe) : Act → Option Failure
  | .call _ => none
  | .event event handling => (p.amid handling).failure? event

/-- The failure of the first event whose note raises, if there is one. -/
def firstFailure? (p : Probe) (acts : List Act) : Option Failure :=
  acts.findSome? p.failureAt?

theorem firstFailure?_eq_none_iff : p.firstFailure? acts = none ↔ p.Passes acts := by
  unfold firstFailure? Passes
  rw [List.findSome?_eq_none_iff]
  constructor
  · intro h event hevent
    obtain ⟨handling, hact⟩ := Act.mem_events.1 hevent
    exact failure?_amid_eq_none_iff.1 (h _ hact)
  · rintro h (_ | ⟨event, handling⟩) hact
    · rfl
    · exact failure?_amid_eq_none_iff.2 (h event (Act.mem_events.2 ⟨handling, hact⟩))

theorem isRecoverable_of_firstFailure? (hl : p.logger.Recoverable)
    (h : p.firstFailure? acts = some e) : e.isRecoverable = true := by
  obtain ⟨_ | ⟨event, handling⟩, _, he⟩ := List.exists_of_findSome?_eq_some h
  · cases he
  · exact isRecoverable_of_failure? (p := p.amid handling) hl he

theorem firstFailure?_of_passes {before after : List Act} {handling : Bool}
    (hb : p.Passes before) (he : (p.amid handling).failure? event = some e) :
    p.firstFailure? (before ++ .event event handling :: after) = some e := by
  have hnone : before.findSome? p.failureAt? = none := firstFailure?_eq_none_iff.2 hb
  unfold firstFailure?
  rw [List.findSome?_append, hnone, List.findSome?_cons]
  simp only [failureAt?, he, Option.none_or]

theorem perform_raises_iff (t : Trace) :
    (∃ u, p.perform acts t = .error e u) ↔ p.firstFailure? acts = some e := by
  rcases p.perform_cases acts t with hp | ⟨before, event, handling, after, e', rfl, hb, he, hr⟩
  · rw [perform_of_passes hp, firstFailure?_eq_none_iff.2 hp]
    exact iff_of_false nofun nofun
  · rw [hr, firstFailure?_of_passes hb he]
    constructor
    · rintro ⟨u, hu⟩
      cases hu
      rfl
    · intro h
      cases h
      exact ⟨_, rfl⟩

end Probe

namespace Resolver

variable {r : Resolver} {outcome : Outcome} {identity? : Option Identity} {s : Scene} {e : Failure}

/-- The failure of the first event of a call whose note raises, if there is one. -/
def firstFailure? (r : Resolver) (outcome : Outcome) (identity? : Option Identity)
    (request : RequestContext) : Option Failure :=
  r.probe.firstFailure? (r.acts outcome identity? request)

/-- A call whose course ends well raises exactly what noting its events raises. -/
theorem resolve_raises_iff_perform {d? : Option Decision}
    (hd : (r.callCourse outcome identity? s.attempt.request).ending = .ok d?) :
    (∃ t, r.resolve outcome identity? s = .error e t) ↔
      ∃ u, r.probe.perform (r.acts outcome identity? s.attempt.request) s.trace = .error e u := by
  rw [acts_of_ending hd, Probe.perform_append, resolve_eq]
  simp only [bind, EStateM.bind, Traced.staged, Course.follow, hd]
  cases r.probe.perform (r.callCourse outcome identity? s.attempt.request).acts s.trace with
  | error e' u => simp
  | ok _ u =>
      simp only [settle]
      cases r.probe.perform (closing s.attempt.request d?) u <;> simp

theorem resolve_raises_iff (hc : r.collaborators.Recoverable) :
    (∃ t, r.resolve outcome identity? s = .error e t) ↔
      r.firstFailure? outcome identity? s.attempt.request = some e := by
  obtain ⟨d?, hd⟩ := r.exists_decision? hc outcome identity? s.attempt.request
  rw [resolve_raises_iff_perform hd]
  exact Probe.perform_raises_iff s.trace

end Resolver

namespace Handler

variable {h : Handler} {publication : Publication} {outcome : Outcome} {s : Scene}

/-- The handler notes a failure of the publication without raising one itself. -/
def Notes (h : Handler) (e : Failure) : Prop :=
  h.probe.amid.failure? (.publicationFailed h.name e) = none

theorem notes_iff {e : Failure} :
    h.Notes e ↔
      (∀ key ∈ Fields.keys h.probe.observed, key ∉ ["handler", "error", "error_type"]) ∧
        h.probe.logger.failure? (h.probe.record (.publicationFailed h.name e)) = none := by
  unfold Notes
  rw [Probe.failure?_amid_eq_none_iff, Probe.failure?_eq_none_iff_clash?,
    Probe.clash?_eq_none_iff, Event.names_publicationFailed]

/-- How the handler ends, by how the publication does. -/
theorem postAuthenticate_cases (h : Handler) (publication : Publication) (outcome : Outcome)
    (s : Scene) :
    (∃ report t, publication outcome s.attempt.identity? s = .ok report t ∧
        h.postAuthenticate publication outcome s = .ok report t) ∨
      ∃ e t, publication outcome s.attempt.identity? s = .error e t ∧
        (e.isRecoverable = true ∧ h.Notes e ∧
            (∃ u, h.postAuthenticate publication outcome s =
              .ok { applied := true, diagnostics := [escaped e] } u) ∨
          (e.isRecoverable = true ∧ ∃ e' u,
            h.probe.amid.failure? (.publicationFailed h.name e) = some e' ∧
              h.postAuthenticate publication outcome s = .error e' u) ∨
          e.isRecoverable = false ∧ h.postAuthenticate publication outcome s = .error e t) := by
  cases hp : publication outcome s.attempt.identity? s with
  | ok report t => exact .inl ⟨report, t, rfl, postAuthenticate_of_ok hp⟩
  | error e t =>
      refine .inr ⟨e, t, rfl, ?_⟩
      cases he : e.isRecoverable with
      | false => exact .inr (.inr ⟨rfl, postAuthenticate_of_interrupt hp he⟩)
      | true =>
          have hr := postAuthenticate_of_error (h := h) hp he
          cases hn : h.probe.amid.failure? (.publicationFailed h.name e) with
          | none =>
              rw [Probe.note_of_failure?_eq_none hn] at hr
              exact .inl ⟨rfl, hn, _, hr⟩
          | some e' =>
              rw [Probe.note_of_failure?_eq_some hn] at hr
              exact .inr (.inl ⟨rfl, e', _, rfl, hr⟩)

theorem postAuthenticate_returns_iff_notes :
    (∃ report t, h.postAuthenticate publication outcome s = .ok report t) ↔
      ∀ e t, publication outcome s.attempt.identity? s = .error e t →
        e.isRecoverable = true ∧ h.Notes e := by
  rcases h.postAuthenticate_cases publication outcome s with
    ⟨report, t, hp, hr⟩ | ⟨e, t, hp, ⟨he, hn, u, hr⟩ | ⟨he, e', u, hn, hr⟩ | ⟨he, hr⟩⟩
  · rw [hp, hr]
    refine iff_of_true ⟨_, _, rfl⟩ fun _ _ hx => ?_
    cases hx
  · rw [hp, hr]
    refine iff_of_true ⟨_, _, rfl⟩ fun e' t' h' => ?_
    cases h'
    exact ⟨he, hn⟩
  · rw [hp, hr]
    refine iff_of_false ?_ fun hall => ?_
    · rintro ⟨_, _, hx⟩
      cases hx
    · cases hn.symm.trans (hall e t rfl).2
  · rw [hp, hr]
    refine iff_of_false ?_ fun hall => ?_
    · rintro ⟨_, _, hx⟩
      cases hx
    · cases he.symm.trans (hall e t rfl).1

/-- The handler returns a report exactly if the publication does or raises a recoverable failure
that the handler's probe notes. With a resolver this is the failure of the first event of the call
whose note raises. So no publication with recoverable failures makes the handler raise exactly if no
entry of its observation is named like a field of the event of the failed publication and its logger
raises at no such event. What the handler raises otherwise is an interrupt of the publication or the
failure of that note. -/
theorem postAuthenticate_returns_iff (h : Handler) :
    (∀ (publication : Publication) (outcome : Outcome) (s : Scene),
      (∃ report t, h.postAuthenticate publication outcome s = .ok report t) ↔
        ∀ e t, publication outcome s.attempt.identity? s = .error e t →
          e.isRecoverable = true ∧ h.Notes e) ∧
    (∀ (publication : Publication) (outcome : Outcome) (s : Scene) (e : Failure) (t : Scene),
      h.postAuthenticate publication outcome s = .error e t →
        ∃ cause u, publication outcome s.attempt.identity? s = .error cause u ∧
          (cause.isRecoverable = false ∧ e = cause ∨
            h.probe.amid.failure? (.publicationFailed h.name cause) = some e)) ∧
    (∀ r : Resolver, r.collaborators.Recoverable → r.probe.logger.Recoverable →
      ∀ (outcome : Outcome) (s : Scene),
        (∃ report t, h.postAuthenticate r.resolve outcome s = .ok report t) ↔
          ∀ e, r.firstFailure? outcome s.attempt.identity? s.attempt.request = some e →
            h.Notes e) ∧
    ((∀ publication : Publication, publication.Recoverable → ∀ (outcome : Outcome) (s : Scene),
        ∃ report t, h.postAuthenticate publication outcome s = .ok report t) ↔
      (∀ key ∈ Fields.keys h.probe.observed, key ∉ ["handler", "error", "error_type"]) ∧
        ∀ e, e.isRecoverable = true →
          h.probe.logger.failure? (h.probe.record (.publicationFailed h.name e)) = none) := by
  refine ⟨fun _ _ _ => postAuthenticate_returns_iff_notes, ?_, ?_, ?_, ?_⟩
  · intro publication outcome s e t hraises
    rcases h.postAuthenticate_cases publication outcome s with
      ⟨report, u, hp, hr⟩ | ⟨cause, u, hp, ⟨_, _, v, hr⟩ | ⟨_, e', v, hn, hr⟩ | ⟨he, hr⟩⟩
    · cases hr.symm.trans hraises
    · cases hr.symm.trans hraises
    · cases hr.symm.trans hraises
      exact ⟨cause, u, hp, .inr hn⟩
    · cases hr.symm.trans hraises
      exact ⟨_, _, hp, .inl ⟨he, rfl⟩⟩
  · intro r hc hl outcome s
    rw [postAuthenticate_returns_iff_notes]
    simp only [← Resolver.resolve_raises_iff hc]
    constructor
    · rintro hall e ⟨t, ht⟩
      exact (hall e t ht).2
    · intro hall e t ht
      have he := (Resolver.resolve_raises_iff hc).1 ⟨t, ht⟩
      exact ⟨Probe.isRecoverable_of_firstFailure? hl he, hall e ⟨t, ht⟩⟩
  · intro hall
    -- Any recoverable failure is that of some publication.
    have hnotes : ∀ e : Failure, e.isRecoverable = true → h.Notes e := by
      intro e he
      have hreturns := hall (fun _ _ s => .error e s)
        (by rintro _ _ _ _ _ hx; cases hx; exact he) ⟨.success, none⟩ ⟨{}, {}⟩
      exact (postAuthenticate_returns_iff_notes.1 hreturns e _ rfl).2
    exact ⟨(notes_iff.1 (hnotes (.plain .runtime "") rfl)).1,
      fun e he => (notes_iff.1 (hnotes e he)).2⟩
  · rintro ⟨havoids, hlogs⟩ publication hp outcome s
    refine postAuthenticate_returns_iff_notes.2 fun e t he => ?_
    have hrecoverable := hp _ _ _ _ _ he
    exact ⟨hrecoverable, notes_iff.2 ⟨havoids, hlogs e hrecoverable⟩⟩

/-- A log that is lost at one record of the resolver costs no more than that call. -/
theorem postAuthenticate_returns_without_log :
    let lost : Failure := .plain .connection "log lost"
    let logger : Logger :=
      { fault? := fun record =>
          if record.name = "identity_user_id_unresolved" then some lost else none }
    let r : Resolver :=
      { collaborators :=
          { tenantDomain := fun _ => .ok "hosting.org"
            tenantId := fun _ => .ok 7
            userStore := fun _ => .ok none }
        probe := { logger } }
    let h : Handler := { name := "basic", probe := { logger } }
    let s : Scene := ⟨{ identity? := some { username := "alice" } }, {}⟩
    r.collaborators.Recoverable ∧ r.probe.logger.Recoverable ∧
      r.firstFailure? ⟨.success, none⟩ s.attempt.identity? s.attempt.request = some lost ∧
      h.Notes lost ∧
      ∃ report t, h.postAuthenticate r.resolve ⟨.success, none⟩ s = .ok report t := by
  intro lost logger r h s
  have hc : r.collaborators.Recoverable := by
    intro call e hraises
    cases call <;> simp [Collaborators.Raises, r] at hraises
  have hl : logger.Recoverable := by
    intro record e hfault
    dsimp only [logger] at hfault
    split at hfault
    · cases hfault
      rfl
    · cases hfault
  have hfirst : r.firstFailure? ⟨.success, none⟩ s.attempt.identity? s.attempt.request =
      some lost := rfl
  have hnotes : h.Notes lost := rfl
  refine ⟨hc, hl, hfirst, hnotes, ?_⟩
  refine ((postAuthenticate_returns_iff h).2.2.1 r hc hl ⟨.success, none⟩ s).2 fun e he => ?_
  cases hfirst.symm.trans he
  exact hnotes

/-- An entry of the observation that is named like a field of the failed look-up is named like one
of the failed publication too, and a log that is lost is lost to both. -/
theorem postAuthenticate_raises :
    let lost : Failure := .plain .connection "log lost"
    let r : Resolver :=
      { collaborators :=
          { tenantDomain := fun _ => .ok "hosting.org"
            tenantId := fun _ => .ok 7
            userStore := fun _ => .ok none } }
    let h : Handler := { name := "basic" }
    let o : Observation := { extra := [("error", .str "e-1")] }
    let unlogged : Probe := { logger := { fault? := fun _ => some lost } }
    let s : Scene := ⟨{ identity? := some { username := "alice" } }, {}⟩
    r.collaborators.Recoverable ∧ r.probe.logger.Recoverable ∧ unlogged.logger.Recoverable ∧
      (∃ t, (h.under o).postAuthenticate (r.under o).resolve ⟨.success, none⟩ s =
        .error (.plain .key "error") t) ∧
      ∃ t, { h with probe := unlogged }.postAuthenticate { r with probe := unlogged }.resolve
        ⟨.success, none⟩ s = .error lost t := by
  intro lost r h o unlogged s
  have hc : r.collaborators.Recoverable := by
    intro call e hraises
    cases call <;> simp [Collaborators.Raises, r] at hraises
  have hplain : r.probe.logger.Recoverable := by
    intro record e hfault
    cases hfault
  have hlost : unlogged.logger.Recoverable := by
    intro record e hfault
    cases hfault
    rfl
  exact ⟨hc, hplain, hlost, ⟨_, rfl⟩, ⟨_, rfl⟩⟩

end Handler

end Principal
