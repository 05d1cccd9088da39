import Principal.Proofs.Handling

/-!
# The verdict

What a strategy returns or raises is what the handler returns or raises, whatever becomes of the
publication, as long as notes do not raise and no interrupt comes in between.
-/

namespace Principal

def Publication.Recoverable (publication : Publication) : Prop :=
  ∀ outcome identity? s e t,
    publication outcome identity? s = .error e t → e.isRecoverable = true

theorem Resolver.recoverable_resolve {r : Resolver} (hp : r.probe.Steady)
    (hc : r.collaborators.Recoverable) : Publication.Recoverable r.resolve := by
  intro outcome identity? s e t he
  obtain ⟨report, u, hr⟩ := resolve_returns hp hc outcome identity? s
  rw [hr] at he
  cases he

namespace Handler

variable {h : Handler} {publication : Publication}

theorem postAuthenticate_returns (hp : h.probe.Steady) (hr : publication.Recoverable)
    (outcome : Outcome) (s : Scene) :
    ∃ report t, h.postAuthenticate publication outcome s = .ok report t ∧
      (∀ report' u, publication outcome s.attempt.identity? s = .ok report' u →
        report = report') ∧
      ∀ e u, publication outcome s.attempt.identity? s = .error e u →
        report = { applied := true, diagnostics := [escaped e] } := by
  cases hx : publication outcome s.attempt.identity? s with
  | ok report t =>
      refine ⟨report, t, postAuthenticate_of_ok hx, ?_, ?_⟩
      · intro report' u hr
        cases hr
        rfl
      · intro e u he
        cases he
  | error e u =>
      have hn := Probe.note_of_steady (p := h.probe.amid) hp.amid (.publicationFailed h.name e)
        u.trace
      rw [postAuthenticate_of_error hx (hr _ _ _ _ _ hx), hn]
      refine ⟨_, _, rfl, ?_, ?_⟩
      · intro report' u' hr
        cases hr
      · intro e' u' he
        cases he
        rfl

/-- The record of a failure to authenticate. -/
def erroredRecord (h : Handler) (e : Failure) : Record where
  level := .warning
  name := "authentication_errored"
  fields :=
    [("handler", .str h.name), ("error", .str e.text), ("error_type", .str e.kind.name)] ++
      h.probe.observed

theorem kept_authenticationErrored (hp : h.probe.Steady) (hl : h.probe.logger.Recording)
    (e : Failure) : h.probe.kept (.authenticationErrored h.name e) = [h.erroredRecord e] :=
  Probe.kept_of_recording hp hl _

theorem authenticateWithReport_of_raised (hp : h.probe.Steady) {strategy : Strategy} {s : Scene}
    {e : Failure} {a : Attempt} (hs : strategy s.attempt = .error e a)
    (publication : Publication) :
    h.authenticateWithReport strategy publication s =
      .error e
        ⟨a, s.trace.logged
          (if e.isA .authentication then h.probe.kept (.authenticationErrored h.name e)
            else [])⟩ := by
  apply authenticateWithReport_of_verdict_eq_error
  rw [verdict_of_error hs, Probe.note_of_steady hp.amid]
  cases e.isA .authentication with
  | true => rfl
  | false => simp

/-- The handler returns the outcome that the strategy returns, with the publication's report, and
raises the failure that the strategy raises, having asked no one and written nothing since. A logger
that records everything then has one more record if that is a failure to authenticate, and no more
otherwise. A failure that escapes the publication is the only diagnostic of a report without fields.
A resolver whose collaborators raise nothing but recoverable failures is such a publication. -/
theorem authenticate_keeps_verdict (h : Handler) (hp : h.probe.Steady) (strategy : Strategy)
    (publication : Publication) (hr : publication.Recoverable) (s : Scene) :
    (∀ outcome a, strategy s.attempt = .ok outcome a →
      ∃ report t, h.authenticateWithReport strategy publication s = .ok (outcome, report) t ∧
        h.authenticate strategy publication s = .ok outcome t ∧
        (∀ report' u, publication outcome a.identity?
            ⟨a, s.trace.logged (h.probe.kept (h.verdictEvent outcome))⟩ = .ok report' u →
          report = report') ∧
        ∀ e u, publication outcome a.identity?
            ⟨a, s.trace.logged (h.probe.kept (h.verdictEvent outcome))⟩ = .error e u →
          report.updatedFields = [] ∧
          report.diagnostics =
            [.because .propagation ("Identity resolution failed: " ++ e.text) e]) ∧
    (∀ e a, strategy s.attempt = .error e a →
      ∃ t : Scene, h.authenticateWithReport strategy publication s = .error e t ∧
        h.authenticate strategy publication s = .error e t ∧
        t.attempt = a ∧ t.trace.calls = s.trace.calls ∧
        (t.trace.log = s.trace.log ++
          if e.isA .authentication then h.probe.kept (.authenticationErrored h.name e) else []) ∧
        (h.probe.logger.Recording →
          t.trace.log = s.trace.log ++
            if e.isA .authentication then [h.erroredRecord e] else [])) ∧
    ∀ r : Resolver, r.probe.Steady → r.collaborators.Recoverable →
      Publication.Recoverable r.resolve := by
  refine ⟨?_, ?_, fun r => Resolver.recoverable_resolve⟩
  · intro outcome a hs
    obtain ⟨report, t, ht, hpublished, hescaped⟩ := postAuthenticate_returns hp hr outcome
      ⟨a, s.trace.logged (h.probe.kept (h.verdictEvent outcome))⟩
    have hw : h.authenticateWithReport strategy publication s = .ok (outcome, report) t := by
      rw [authenticateWithReport_of_ok hs, Probe.note_of_steady hp]
      simp only [ht]
    refine ⟨report, t, hw, authenticate_of_ok hw, hpublished, ?_⟩
    intro e u he
    rw [hescaped e u he]
    exact ⟨rfl, rfl⟩
  · intro e a hs
    have hw := authenticateWithReport_of_raised hp hs publication
    refine ⟨_, hw, authenticate_of_error hw, rfl, rfl, rfl, fun hl => ?_⟩
    rw [← kept_authenticationErrored hp hl]
    rfl

/-- A rejection by a strategy that forgets the identity is returned even if the publication fails,
and one that is raised leaves one record behind it. -/
theorem authenticate_keeps_rejection :
    let h : Handler := { name := "basic" }
    let strategy : Strategy := fun a => .ok ⟨.failed, some "expired"⟩ { a with identity? := none }
    let expired : Failure := .plain .rejected "expired"
    let raising : Strategy := fun a => .error expired a
    let lost : Failure := .plain .connection "lost"
    let publication : Publication := fun _ _ s => .error lost s
    h.probe.Steady ∧ publication.Recoverable ∧ h.probe.logger.Recording ∧ ∀ s,
      (∃ report t,
        h.authenticateWithReport strategy publication s =
          .ok (⟨.failed, some "expired"⟩, report) t ∧
        report.diagnostics = [.because .propagation "Identity resolution failed: lost" lost]) ∧
      ∃ t, h.authenticate raising publication s = .error expired t ∧
        t.trace.log = s.trace.log ++ [⟨.warning, "authentication_errored",
          [("handler", .str "basic"), ("error", .str "expired"),
            ("error_type", .str "AuthenticationFailedError")]⟩] := by
  intro h strategy expired raising lost publication
  have hl : h.probe.logger.Recording := Logger.recording_default
  have hp : h.probe.Steady := Probe.steady_of_logger hl.steady rfl
  have hr : publication.Recoverable := by
    intro _ _ _ e t he
    cases he
    rfl
  refine ⟨hp, hr, hl, fun s => ⟨?_, ?_⟩⟩
  · obtain ⟨report, t, hw, _, _, hescaped⟩ :=
      (authenticate_keeps_verdict h hp strategy publication hr s).1 _ _ rfl
    have ht : "Identity resolution failed: " ++ lost.text =
        "Identity resolution failed: lost" := by decide
    obtain ⟨_, hd⟩ := hescaped lost _ rfl
    rw [ht] at hd
    exact ⟨report, t, hw, hd⟩
  · obtain ⟨t, _, hw, _, _, _, hlog⟩ :=
      (authenticate_keeps_verdict h hp raising publication hr s).2.1 _ _ rfl
    exact ⟨t, hw, hlog hl⟩

end Handler

end Principal
