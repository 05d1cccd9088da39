import Principal.Handler
import Principal.Proofs.Publishing

/-!
# Handling

What each step of the handler does for each way in which its strategy, its publication and its own
notes can end. The attempt is only ever written by the strategy and by the publication.
-/

namespace Principal

namespace Handler

def verdictEvent (h : Handler) (outcome : Outcome) : Event :=
  if outcome.isSuccess then .authenticationSucceeded h.name
  else .authenticationRejected h.name outcome.detail

theorem noteVerdict_eq (h : Handler) (outcome : Outcome) :
    h.noteVerdict outcome = h.probe.note (h.verdictEvent outcome) := by
  unfold noteVerdict verdictEvent
  cases outcome.isSuccess <;> rfl

variable {h : Handler} {strategy : Strategy} {publication : Publication} {outcome : Outcome}
  {e : Failure} {a : Attempt} {s t : Scene}

theorem verdict_of_ok (hs : strategy s.attempt = .ok outcome a) :
    h.verdict strategy s = .ok outcome { s with attempt := a } := by
  have hx : strategy.staged s = .ok outcome { s with attempt := a } := by
    simp only [Strategy.staged, hs]
  unfold verdict
  rw [tryCatch_apply, hx]

theorem verdict_of_error (hs : strategy s.attempt = .error e a) :
    h.verdict strategy s =
      if e.isA .authentication then
        match h.probe.amid.note (.authenticationErrored h.name e) s.trace with
        | .ok _ u => .error e ⟨a, u⟩
        | .error e' u => .error e' ⟨a, u⟩
      else .error e { s with attempt := a } := by
  have hx : strategy.staged s = .error e { s with attempt := a } := by
    simp only [Strategy.staged, hs]
  unfold verdict
  rw [tryCatch_apply, hx]
  cases ha : e.isA .authentication with
  | false =>
      simp only [ha, Bool.false_eq_true, if_false]
      rfl
  | true =>
      simp only [ha, if_true, bind, EStateM.bind, Traced.staged]
      cases h.probe.amid.note (.authenticationErrored h.name e) s.trace <;> rfl

theorem postAuthenticate_apply (h : Handler) (publication : Publication) (outcome : Outcome)
    (s : Scene) :
    h.postAuthenticate publication outcome s =
      match catching (publication outcome s.attempt.identity?) s with
      | .ok (.ok report) t => .ok report t
      | .ok (.error e) t =>
          match h.probe.amid.note (.publicationFailed h.name e) t.trace with
          | .ok _ u => .ok { applied := true, diagnostics := [escaped e] } { t with trace := u }
          | .error e' u => .error e' { t with trace := u }
      | .error e t => .error e t := by
  change (catching (publication outcome s.attempt.identity?) >>= _) s = _
  simp only [bind, EStateM.bind]
  match catching (publication outcome s.attempt.identity?) s with
  | .ok (.ok report) t => rfl
  | .ok (.error e) t =>
      simp only [EStateM.bind, Traced.staged]
      cases h.probe.amid.note (.publicationFailed h.name e) t.trace <;> rfl
  | .error e t => rfl

theorem postAuthenticate_of_ok {report : Report}
    (hp : publication outcome s.attempt.identity? s = .ok report t) :
    h.postAuthenticate publication outcome s = .ok report t := by
  rw [postAuthenticate_apply, catching_of_ok hp]

theorem postAuthenticate_of_error (hp : publication outcome s.attempt.identity? s = .error e t)
    (he : e.isRecoverable = true) :
    h.postAuthenticate publication outcome s =
      match h.probe.amid.note (.publicationFailed h.name e) t.trace with
      | .ok _ u => .ok { applied := true, diagnostics := [escaped e] } { t with trace := u }
      | .error e' u => .error e' { t with trace := u } := by
  rw [postAuthenticate_apply, catching_of_error hp he]

theorem postAuthenticate_of_interrupt
    (hp : publication outcome s.attempt.identity? s = .error e t) (he : e.isRecoverable = false) :
    h.postAuthenticate publication outcome s = .error e t := by
  have hx : catching (publication outcome s.attempt.identity?) s = .error e t := by
    simp [catching, hp, he]
  rw [postAuthenticate_apply, hx]

/-- The handler leaves the attempt as the publication leaves it. -/
theorem attempt_postAuthenticate (h : Handler) (publication : Publication) (outcome : Outcome)
    (s : Scene) :
    (sceneAfter (h.postAuthenticate publication outcome) s).attempt =
      (sceneAfter (publication outcome s.attempt.identity?) s).attempt := by
  unfold sceneAfter
  cases hp : publication outcome s.attempt.identity? s with
  | ok report t => rw [postAuthenticate_of_ok hp]
  | error e t =>
      cases he : e.isRecoverable with
      | false => rw [postAuthenticate_of_interrupt hp he]
      | true =>
          rw [postAuthenticate_of_error hp he]
          cases h.probe.amid.note (.publicationFailed h.name e) t.trace <;> rfl

theorem authenticateWithReport_of_ok (hs : strategy s.attempt = .ok outcome a) :
    h.authenticateWithReport strategy publication s =
      match h.probe.note (h.verdictEvent outcome) s.trace with
      | .ok _ u =>
          match h.postAuthenticate publication outcome ⟨a, u⟩ with
          | .ok report t => .ok (outcome, report) t
          | .error e t => .error e t
      | .error e u => .error e ⟨a, u⟩ := by
  simp only [authenticateWithReport, bind, EStateM.bind, verdict_of_ok hs, noteVerdict_eq,
    Traced.staged]
  cases h.probe.note (h.verdictEvent outcome) s.trace with
  | error e u => rfl
  | ok _ u =>
      dsimp only
      cases h.postAuthenticate publication outcome ⟨a, u⟩ <;> rfl

theorem authenticateWithReport_of_verdict_eq_error
    (hv : h.verdict strategy s = .error e t) :
    h.authenticateWithReport strategy publication s = .error e t := by
  simp only [authenticateWithReport, bind, EStateM.bind, hv]

theorem authenticateWithReport_eq_ok {report : Report}
    (hr : h.authenticateWithReport strategy publication s = .ok (outcome, report) t) :
    ∃ a u, strategy s.attempt = .ok outcome a ∧
      h.postAuthenticate publication outcome ⟨a, u⟩ = .ok report t := by
  cases hs : strategy s.attempt with
  | error e a =>
      obtain ⟨e', u, hv⟩ : ∃ e' u, h.verdict strategy s = .error e' u := by
        rw [verdict_of_error hs]
        cases e.isA .authentication with
        | false => exact ⟨_, _, rfl⟩
        | true =>
            rw [if_pos rfl]
            cases h.probe.amid.note (.authenticationErrored h.name e) s.trace with
            | ok _ u => exact ⟨_, _, rfl⟩
            | error e' u => exact ⟨_, _, rfl⟩
      rw [authenticateWithReport_of_verdict_eq_error hv] at hr
      cases hr
  | ok outcome' a =>
      rw [authenticateWithReport_of_ok hs] at hr
      cases hn : h.probe.note (h.verdictEvent outcome') s.trace with
      | error e u =>
          rw [hn] at hr
          cases hr
      | ok _ u =>
          rw [hn] at hr
          cases hp : h.postAuthenticate publication outcome' ⟨a, u⟩ with
          | error e t' =>
              simp only [hp] at hr
              cases hr
          | ok report' t' =>
              simp only [hp] at hr
              cases hr
              exact ⟨a, u, rfl, hp⟩

theorem authenticate_of_ok {report : Report}
    (hr : h.authenticateWithReport strategy publication s = .ok (outcome, report) t) :
    h.authenticate strategy publication s = .ok outcome t := by
  simp only [authenticate, bind, EStateM.bind, hr]
  rfl

theorem authenticate_of_error
    (hr : h.authenticateWithReport strategy publication s = .error e t) :
    h.authenticate strategy publication s = .error e t := by
  simp only [authenticate, bind, EStateM.bind, hr]

end Handler

end Principal
