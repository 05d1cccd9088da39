import Principal.Proofs.Service

/-!
# What a step leaves alone

Notes change nothing but the log, and all that a resolver writes into an attempt is one decision,
which is never about the tenant domain. So whatever is raised, a step of a service leaves the tenant
domain of every request context and the attempts of other names as they were, and a step that has
nothing to publish asks no one and leaves its own request context as it was too.
-/

namespace Principal

/-- The second scene is what the first becomes by logging alone. -/
structure Scene.LogsTo (s t : Scene) : Prop where
  attempt : t.attempt = s.attempt
  calls : t.trace.calls = s.trace.calls

namespace Scene.LogsTo

variable {s t u : Scene}

theorem refl (s : Scene) : s.LogsTo s := ⟨rfl, rfl⟩

theorem trans (h : s.LogsTo t) (h' : t.LogsTo u) : s.LogsTo u :=
  ⟨h'.attempt.trans h.attempt, h'.calls.trans h.calls⟩

end Scene.LogsTo

section After

variable {α β : Type} {x : Staged α} {s t : Scene}

theorem sceneAfter_bind_pure (x : Staged α) (f : α → β) (s : Scene) :
    sceneAfter (x >>= fun a => pure (f a)) s = sceneAfter x s := by
  simp only [sceneAfter, bind, EStateM.bind]
  cases x s <;> rfl

theorem sceneAfter_bind_of_ok {a : α} (h : x s = .ok a t) (f : α → Staged β) :
    sceneAfter (x >>= f) s = sceneAfter (f a) t := by
  simp only [sceneAfter, bind, EStateM.bind, h]

theorem sceneAfter_bind_of_error {e : Failure} (h : x s = .error e t) (f : α → Staged β) :
    sceneAfter (x >>= f) s = t := by
  simp only [sceneAfter, bind, EStateM.bind, h]

end After

theorem Probe.logsTo_note (p : Probe) (event : Event) (s : Scene) :
    s.LogsTo (sceneAfter (p.note event).staged s) := by
  unfold sceneAfter Traced.staged
  rcases p.note_cases event s.trace with hn | ⟨e, hn⟩
  · rw [hn]
    exact ⟨rfl, rfl⟩
  · rw [hn]
    exact ⟨rfl, rfl⟩

/-- A publication that keeps to its frame leaves the tenant domain alone, and leaves nothing but the
log changed where there is nothing to publish. -/
structure Publication.Framed (publication : Publication) : Prop where
  tenantDomain : ∀ outcome identity? s,
    (sceneAfter (publication outcome identity?) s).attempt.request.tenantDomain =
      s.attempt.request.tenantDomain
  nothing : ∀ (outcome : Outcome) (identity? : Option Identity) (s : Scene),
    outcome.isSuccess = false ∨ identity? = none →
      s.LogsTo (sceneAfter (publication outcome identity?) s)

theorem Publication.framed_throw (e : Failure) : Publication.Framed fun _ _ => throw e where
  tenantDomain _ _ _ := rfl
  nothing _ _ s _ := .refl s

namespace Resolver

variable (r : Resolver) {outcome : Outcome} {identity? : Option Identity}

theorem tenantDomain_written (request : RequestContext) (d? : Option Decision) :
    (written request d?).tenantDomain = request.tenantDomain := by
  cases d? <;> rfl

/-- However a call ends, what it has written is one decision or nothing. -/
theorem exists_written (outcome : Outcome) (identity? : Option Identity) (s : Scene) :
    ∃ d?, (sceneAfter (r.resolve outcome identity?) s).attempt =
      { s.attempt with request := written s.attempt.request d? } := by
  unfold sceneAfter
  rcases r.resolve_cases outcome identity? s with
    hp | ⟨_, _, _, _, _, _, _, hr⟩ | ⟨d, _, _, _, hr⟩
  · rw [resolve_of_passes hp]
    cases (r.callCourse outcome identity? s.attempt.request).ending with
    | ok d? => exact ⟨d?, rfl⟩
    | error e => exact ⟨none, rfl⟩
  · rw [hr]
    exact ⟨none, rfl⟩
  · rw [hr]
    exact ⟨some d, rfl⟩

theorem logsTo_skip (reason : String) (s : Scene) : s.LogsTo (sceneAfter (r.skip reason) s) := by
  unfold skip
  rw [sceneAfter_bind_pure]
  exact r.probe.logsTo_note _ s

theorem exists_resolve_eq_skip (h : outcome.isSuccess = false ∨ identity? = none) :
    ∃ reason, r.resolve outcome identity? = r.skip reason := by
  unfold resolve
  cases ho : outcome.isSuccess with
  | false => exact ⟨_, rfl⟩
  | true =>
      rcases h with hf | rfl
      · rw [ho] at hf
        cases hf
      · exact ⟨_, rfl⟩

theorem framed_resolve : Publication.Framed r.resolve where
  tenantDomain outcome identity? s := by
    obtain ⟨d?, hd⟩ := r.exists_written outcome identity? s
    rw [hd]
    exact tenantDomain_written _ d?
  nothing outcome identity? s h := by
    obtain ⟨reason, hr⟩ := r.exists_resolve_eq_skip h
    rw [hr]
    exact r.logsTo_skip reason s

end Resolver

namespace Strategy

variable (strategy : Strategy) (attempt : Attempt)

/-- The attempt as the strategy leaves it, whether it returns or raises. -/
def left : Attempt :=
  match strategy attempt with
  | .ok _ a => a
  | .error _ a => a

/-- The strategy raises, returns no success, or leaves no identity. -/
def GivesNothing : Prop :=
  ∀ outcome a, strategy attempt = .ok outcome a → outcome.isSuccess = false ∨ a.identity? = none

end Strategy

/-- From the first scene a computation gets to the second one by working on an attempt prepared for
it, keeping the tenant domain. If it is idle, it only logs. -/
structure Scene.Frames (prepared : Attempt) (idle : Prop) (s t : Scene) : Prop where
  tenantDomain : t.attempt.request.tenantDomain = prepared.request.tenantDomain
  idle : idle → Scene.LogsTo ⟨prepared, s.trace⟩ t

theorem Scene.LogsTo.frames {prepared : Attempt} {s t : Scene}
    (h : Scene.LogsTo ⟨prepared, s.trace⟩ t) (idle : Prop) : Scene.Frames prepared idle s t where
  tenantDomain := by rw [h.attempt]
  idle _ := h

namespace Handler

variable {h : Handler} {strategy : Strategy} {publication : Publication} {outcome : Outcome}
  {e : Failure} {a : Attempt} {s : Scene}

/-- After the publication the handler only logs. -/
theorem logsTo_postAuthenticate (h : Handler) (publication : Publication) (outcome : Outcome)
    (s : Scene) :
    (sceneAfter (publication outcome s.attempt.identity?) s).LogsTo
      (sceneAfter (h.postAuthenticate publication outcome) s) := by
  unfold sceneAfter
  cases hp : publication outcome s.attempt.identity? s with
  | ok report t =>
      rw [postAuthenticate_of_ok hp]
      exact .refl t
  | error e t =>
      cases he : e.isRecoverable with
      | false =>
          rw [postAuthenticate_of_interrupt hp he]
          exact .refl t
      | true =>
          rw [postAuthenticate_of_error hp he]
          rcases h.probe.amid.note_cases (.publicationFailed h.name e) t.trace with hn | ⟨_, hn⟩
          · rw [hn]
            exact ⟨rfl, rfl⟩
          · rw [hn]
            exact ⟨rfl, rfl⟩

/-- A strategy that raises is followed by a note at most. -/
theorem logsTo_verdict_of_error (hs : strategy s.attempt = .error e a) :
    ∃ e' t, h.verdict strategy s = .error e' t ∧ Scene.LogsTo ⟨a, s.trace⟩ t := by
  rw [verdict_of_error hs]
  cases e.isA .authentication with
  | false => exact ⟨_, _, rfl, .refl _⟩
  | true =>
      rcases h.probe.amid.note_cases (.authenticationErrored h.name e) s.trace with hn | ⟨e', hn⟩
      · rw [if_pos rfl, hn]
        exact ⟨_, _, rfl, rfl, rfl⟩
      · rw [if_pos rfl, hn]
        exact ⟨_, _, rfl, rfl, rfl⟩

theorem logsTo_authenticateWithReport_of_error (hs : strategy s.attempt = .error e a) :
    Scene.LogsTo ⟨a, s.trace⟩ (sceneAfter (h.authenticateWithReport strategy publication) s) := by
  obtain ⟨e', t, hv, hl⟩ := logsTo_verdict_of_error (h := h) hs
  unfold sceneAfter
  rw [authenticateWithReport_of_verdict_eq_error hv]
  exact hl

theorem sceneAfter_authenticateWithReport {u : Trace} (hs : strategy s.attempt = .ok outcome a)
    (hn : h.probe.note (h.verdictEvent outcome) s.trace = .ok () u) :
    sceneAfter (h.authenticateWithReport strategy publication) s =
      sceneAfter (h.postAuthenticate publication outcome) ⟨a, u⟩ := by
  unfold sceneAfter
  rw [authenticateWithReport_of_ok hs, hn]
  dsimp only
  cases h.postAuthenticate publication outcome ⟨a, u⟩ <;> rfl

/-- A strategy that returns is followed by a note and, unless that raises, by the publication with
another note at most. -/
theorem logsTo_authenticateWithReport_of_ok (hs : strategy s.attempt = .ok outcome a) :
    ∃ t, Scene.LogsTo ⟨a, s.trace⟩ t ∧
      (sceneAfter (h.authenticateWithReport strategy publication) s = t ∨
        (sceneAfter (publication outcome t.attempt.identity?) t).LogsTo
          (sceneAfter (h.authenticateWithReport strategy publication) s)) := by
  refine ⟨⟨a, s.trace.logged (h.probe.kept (h.verdictEvent outcome))⟩, ⟨rfl, rfl⟩, ?_⟩
  rcases h.probe.note_cases (h.verdictEvent outcome) s.trace with hn | ⟨e', hn⟩
  · rw [sceneAfter_authenticateWithReport hs hn]
    exact .inr (logsTo_postAuthenticate h publication outcome _)
  · refine .inl ?_
    unfold sceneAfter
    rw [authenticateWithReport_of_ok hs, hn]

theorem frames_postAuthenticate (hp : publication.Framed) (h : Handler) (outcome : Outcome)
    (s : Scene) :
    Scene.Frames s.attempt (outcome.isSuccess = false ∨ s.attempt.identity? = none) s
      (sceneAfter (h.postAuthenticate publication outcome) s) := by
  have hl := logsTo_postAuthenticate h publication outcome s
  constructor
  · rw [hl.attempt]
    exact hp.tenantDomain _ _ _
  · intro hn
    exact (hp.nothing _ _ _ hn).trans hl

theorem frames_authenticateWithReport (hp : publication.Framed) (h : Handler) (strategy : Strategy)
    (s : Scene) :
    Scene.Frames (strategy.left s.attempt) (strategy.GivesNothing s.attempt) s
      (sceneAfter (h.authenticateWithReport strategy publication) s) := by
  cases hs : strategy s.attempt with
  | error e a =>
      have hleft : strategy.left s.attempt = a := by simp only [Strategy.left, hs]
      rw [hleft]
      exact (logsTo_authenticateWithReport_of_error hs).frames _
  | ok outcome a =>
      have hleft : strategy.left s.attempt = a := by simp only [Strategy.left, hs]
      rw [hleft]
      obtain ⟨t, ht, hl⟩ : ∃ t, Scene.LogsTo ⟨a, s.trace⟩ t ∧
          (sceneAfter (h.authenticateWithReport strategy publication) s = t ∨
            (sceneAfter (publication outcome t.attempt.identity?) t).LogsTo
              (sceneAfter (h.authenticateWithReport strategy publication) s)) :=
        logsTo_authenticateWithReport_of_ok hs
      rcases hl with heq | hl
      · rw [heq]
        exact ht.frames _
      · constructor
        · rw [hl.attempt, hp.tenantDomain, ht.attempt]
        · intro hn
          rw [ht.attempt] at hl
          exact (ht.trans (hp.nothing _ _ _ (hn outcome a hs))).trans hl

end Handler

/-- The attempt as a task leaves it if it publishes nothing. -/
def Turn.Task.prepare : Turn.Task → Attempt → Attempt
  | .authenticate strategy => strategy.left
  | .authenticateWithReport strategy => strategy.left
  | .postAuthenticate strategy => strategy.left
  | .edit change => change
  | .resolve .. => id
  | .priority _ => id
  | .isEnabled => id
  | .name => id

/-- There is nothing for a task to publish that finds its attempt as given. -/
def Turn.Task.Idle (found : Attempt) : Turn.Task → Prop
  | .resolve outcome identity? =>
      ∀ given, outcome = .ok given → given.isSuccess = false ∨ identity? = none
  | .authenticate strategy => strategy.GivesNothing found
  | .authenticateWithReport strategy => strategy.GivesNothing found
  | .postAuthenticate strategy => strategy.GivesNothing found
  | .edit _ => True
  | .priority _ => True
  | .isEnabled => True
  | .name => True

/-- A task writes into the request context by publishing only. -/
def Turn.Task.SparesRequest (task : Turn.Task) : Prop :=
  ∀ attempt, (task.prepare attempt).request = attempt.request

namespace Session

namespace Setup

variable (setup : Setup) (turn : Turn)

theorem framed_publication : (setup.publication turn).Framed := by
  unfold publication
  cases turn.resolverFault? with
  | some e => exact Publication.framed_throw e
  | none => exact (setup.resolver turn).framed_resolve

theorem frames_action (s : Scene) :
    Scene.Frames (turn.task.prepare s.attempt) (turn.task.Idle s.attempt) s
      (sceneAfter (setup.action turn s.attempt) s) := by
  have hp := setup.framed_publication turn
  unfold action
  cases turn.task with
  | resolve outcome identity? =>
      cases outcome with
      | error e => exact (Scene.LogsTo.refl s).frames _
      | ok outcome =>
          have hr := (setup.resolver turn).framed_resolve
          have hx : (MonadExcept.ofExcept (.ok outcome) : Staged Outcome) s = .ok outcome s := rfl
          dsimp only
          rw [sceneAfter_bind_of_ok hx, sceneAfter_bind_pure]
          exact ⟨hr.tenantDomain _ _ _, fun hidle => hr.nothing _ _ _ (hidle outcome rfl)⟩
  | authenticate strategy =>
      have hf := Handler.frames_authenticateWithReport hp (setup.handler turn) strategy s
      rw [sceneAfter_bind_pure]
      unfold Handler.authenticate
      rw [sceneAfter_bind_pure]
      exact hf
  | authenticateWithReport strategy =>
      have hf := Handler.frames_authenticateWithReport hp (setup.handler turn) strategy s
      dsimp only
      rw [sceneAfter_bind_pure]
      exact hf
  | postAuthenticate strategy =>
      -- A strategy that raises leaves nothing to publish, whatever it has put into the attempt.
      dsimp only [Turn.Task.prepare, Turn.Task.Idle]
      cases hs : strategy s.attempt with
      | error e a =>
          have hx : strategy.staged s = .error e ⟨a, s.trace⟩ := by
            simp only [Strategy.staged, hs]
          have hleft : strategy.left s.attempt = a := by simp only [Strategy.left, hs]
          rw [sceneAfter_bind_of_error hx, hleft]
          exact (Scene.LogsTo.refl _).frames _
      | ok outcome a =>
          have hx : strategy.staged s = .ok outcome ⟨a, s.trace⟩ := by
            simp only [Strategy.staged, hs]
          have hleft : strategy.left s.attempt = a := by simp only [Strategy.left, hs]
          have hf := Handler.frames_postAuthenticate hp (setup.handler turn) outcome ⟨a, s.trace⟩
          rw [sceneAfter_bind_of_ok hx, sceneAfter_bind_pure, hleft]
          exact ⟨hf.tenantDomain, fun hidle => hf.idle (hidle outcome a hs)⟩
  | priority default => exact (Scene.LogsTo.refl s).frames _
  | isEnabled => exact (Scene.LogsTo.refl s).frames _
  | name => exact (Scene.LogsTo.refl s).frames _
  | edit change => exact Scene.LogsTo.frames ⟨rfl, rfl⟩ _

end Setup

/-- The attempt of a name. -/
def attemptIn (attempts : Fields Attempt) (name : String) : Attempt :=
  (Fields.get? name attempts).getD {}

theorem attemptIn_put_self (name : String) (attempt : Attempt) (attempts : Fields Attempt) :
    attemptIn (Fields.put name attempt attempts) name = attempt := by
  simp only [attemptIn, Fields.get?_put_self, Option.getD_some]

theorem attemptIn_put_of_ne {name other : String} (h : other ≠ name) (attempt : Attempt)
    (attempts : Fields Attempt) :
    attemptIn (Fields.put name attempt attempts) other = attemptIn attempts other := by
  simp only [attemptIn, Fields.get?_put_of_ne h]

/-- No tenant domain changes, and of the attempts only those of the given names. -/
structure Spared (names : List String) (before after : Fields Attempt) : Prop where
  tenantDomain : ∀ name,
    (attemptIn after name).request.tenantDomain = (attemptIn before name).request.tenantDomain
  others : ∀ name, name ∉ names → attemptIn after name = attemptIn before name

theorem Spared.refl (attempts : Fields Attempt) : Spared [] attempts attempts :=
  ⟨fun _ => rfl, fun _ _ => rfl⟩

theorem Spared.trans {names more : List String} {a b c : Fields Attempt} (h : Spared names a b)
    (h' : Spared more b c) : Spared (names ++ more) a c where
  tenantDomain name := (h'.tenantDomain name).trans (h.tenantDomain name)
  others name hn := by
    rw [List.mem_append, not_or] at hn
    exact (h'.others name hn.2).trans (h.others name hn.1)

/-- What becomes of the attempts where the one of a name is worked on. If there is nothing to
publish, its request context stays as it is and no collaborator is called. -/
structure Framed (name : String) (idle : Prop) (before after : Fields Attempt) (trace : Trace) :
    Prop extends Spared [name] before after where
  idle : idle → (attemptIn after name).request = (attemptIn before name).request ∧ trace.calls = []

theorem Answer.of_eq (x : Staged Reply) (s : Scene) :
    (Answer.of (x s)).attempt = (sceneAfter x s).attempt ∧
      (Answer.of (x s)).trace = (sceneAfter x s).trace := by
  unfold sceneAfter
  cases x s <;> exact ⟨rfl, rfl⟩

namespace Setup

variable (setup : Setup)

/-- A turn keeps to its frame, whatever its collaborators, the resolver and the log raise. -/
theorem framed_answer (turn : Turn) (h : turn.task.SparesRequest) (attempts : Fields Attempt) :
    Framed turn.attempt (turn.task.Idle (attemptIn attempts turn.attempt)) attempts
      (Fields.put turn.attempt (setup.answer turn attempts).attempt attempts)
      (setup.answer turn attempts).trace := by
  have hf := setup.frames_action turn ⟨attemptIn attempts turn.attempt, {}⟩
  obtain ⟨hattempt, htrace⟩ := Answer.of_eq
    (setup.action turn (attemptIn attempts turn.attempt)) ⟨attemptIn attempts turn.attempt, {}⟩
  have hown := attemptIn_put_self turn.attempt (setup.answer turn attempts).attempt attempts
  refine ⟨⟨?_, ?_⟩, ?_⟩
  · intro name
    by_cases hn : name = turn.attempt
    · subst hn
      rw [hown]
      exact (congrArg (·.request.tenantDomain) hattempt).trans
        (hf.tenantDomain.trans (congrArg (·.tenantDomain) (h _)))
    · rw [attemptIn_put_of_ne hn]
  · intro name hn
    exact attemptIn_put_of_ne (List.ne_of_not_mem_cons hn) _ _
  · intro hidle
    have hl := hf.idle hidle
    rw [hown]
    exact ⟨(congrArg (·.request) (hattempt.trans hl.attempt)).trans (h _),
      (congrArg (·.calls) htrace).trans hl.calls⟩

/-- The attempts as turns leave them. -/
def leave (attempts : Fields Attempt) (turns : List Turn) : Fields Attempt :=
  turns.foldl
    (fun attempts turn => Fields.put turn.attempt (setup.answer turn attempts).attempt attempts)
    attempts

theorem serve_append (attempts : Fields Attempt) (turns more : List Turn) :
    setup.serve attempts (turns ++ more) =
      setup.serve attempts turns ++ setup.serve (setup.leave attempts turns) more := by
  induction turns generalizing attempts with
  | nil => rfl
  | cons turn turns ih =>
      dsimp only [List.cons_append, serve]
      rw [ih]
      rfl

theorem spared_leave {turns : List Turn} (h : ∀ turn ∈ turns, turn.task.SparesRequest)
    (attempts : Fields Attempt) :
    Spared (turns.map (·.attempt)) attempts (setup.leave attempts turns) := by
  induction turns generalizing attempts with
  | nil => exact .refl attempts
  | cons turn turns ih =>
      obtain ⟨hturn, hturns⟩ := List.forall_mem_cons.1 h
      exact (setup.framed_answer turn hturn attempts).toSpared.trans (ih hturns _)

end Setup

section Steps

variable (s : Session)

/-- The session as steps leave it. -/
def after (steps : List (String × Step)) : Session :=
  steps.foldl (fun s (name, step) => (s.step name step).2) s

theorem run_append (steps more : List (String × Step)) :
    s.run (steps ++ more) = s.run steps ++ (s.after steps).run more := by
  induction steps generalizing s with
  | nil => rfl
  | cons head steps ih =>
      obtain ⟨name, step⟩ := head
      rw [List.cons_append, run_cons, run_cons, ih]
      rfl

/-- The only step that writes into a request context directly is the one that says so. -/
theorem Step.sparesRequest {step : Step} (h : ∀ fields, step ≠ .setContext fields) :
    step.task.SparesRequest := by
  have hscript : ∀ (script : Script) attempt,
      (script.strategy.left attempt).request = attempt.request := by
    intro script attempt
    unfold Strategy.left Script.strategy
    cases script.verdict <;> cases script.identity? <;> rfl
  intro attempt
  cases step with
  | authenticate script => exact hscript script attempt
  | authenticateWithReport script => exact hscript script attempt
  | postAuthenticate identity? outcome => exact hscript { identity?, verdict := outcome } attempt
  | setContext fields => exact absurd rfl (h fields)
  | _ => rfl

theorem framed_step {step : Step} (h : ∀ fields, step ≠ .setContext fields) (name : String) :
    Framed name (step.task.Idle (s.attempt name)) s.attempts (s.step name step).2.attempts
      (s.step name step).1.trace := by
  have hs := s.step_attempts s.attempts name step
  change s.step name step = _ at hs
  rw [hs]
  exact s.setup.framed_answer (s.turn name step) (Step.sparesRequest h) s.attempts

theorem spared_after {steps : List (String × Step)}
    (h : ∀ named ∈ steps, ∀ fields, named.2 ≠ .setContext fields) :
    Spared (steps.map Prod.fst) s.attempts (s.after steps).attempts := by
  induction steps generalizing s with
  | nil => exact .refl s.attempts
  | cons head steps ih =>
      obtain ⟨name, step⟩ := head
      obtain ⟨hstep, hsteps⟩ := List.forall_mem_cons.1 h
      exact (s.framed_step hstep name).toSpared.trans (ih _ hsteps)

end Steps

/-- Whatever is raised in a run, a turn of the service leaves every tenant domain and the attempts
of other names as they were, and its own request context too if its strategy raises, its outcome is
no success or it has no identity; it then calls no collaborator. So the run as a whole changes no
tenant domain and no attempt that it does not work on. The same goes for the steps of a session,
whose strategies never write into a request context. -/
theorem runs_framed (s : Session) (attempts : Fields Attempt) :
    (∀ turns turn rest, turn.task.SparesRequest →
      let found := s.setup.leave attempts turns
      let answer := s.setup.answer turn found
      let left := Fields.put turn.attempt answer.attempt found
      s.setup.serve attempts (turns ++ turn :: rest) =
          s.setup.serve attempts turns ++ answer :: s.setup.serve left rest ∧
        Framed turn.attempt (turn.task.Idle (attemptIn found turn.attempt)) found left
          answer.trace) ∧
    (∀ turns, (∀ turn ∈ turns, turn.task.SparesRequest) →
      Spared (turns.map (·.attempt)) attempts (s.setup.leave attempts turns)) ∧
    (∀ steps name step rest, (∀ fields, step ≠ .setContext fields) →
      let found := s.after steps
      let answer := (found.step name step).1
      let left := (found.step name step).2
      s.run (steps ++ (name, step) :: rest) = s.run steps ++ answer :: left.run rest ∧
        Framed name (step.task.Idle (found.attempt name)) found.attempts left.attempts
          answer.trace) ∧
    ∀ steps, (∀ named ∈ steps, ∀ fields, named.2 ≠ .setContext fields) →
      Spared (steps.map Prod.fst) s.attempts (s.after steps).attempts := by
  refine ⟨?_, fun _ h => s.setup.spared_leave h attempts, ?_, fun _ h => s.spared_after h⟩
  · intro turns turn rest h
    exact ⟨s.setup.serve_append attempts turns _, s.setup.framed_answer turn h _⟩
  · intro steps name step rest h
    exact ⟨s.run_append steps _, (s.after steps).framed_step h name⟩

/-- Alice's publication is interrupted and bob's is rejected under an observation whose entry takes
the name of a field. -/
theorem runs_framed_interrupted :
    let alice : Identity := { username := "alice", tenantDomain := some "ACME.com" }
    let stop : Failure := .plain .interrupt "stop"
    let s : Session := {
      setup := { observation? := some { extra := [("reason", .str "sso")] } }
      directory := { userIds? := some {} }
      faults := { userIds := some stop }
      attempts :=
        [("alice", { request := { tenantDomain := some "acme.com", username := some "eve" } }),
          ("bob", { request := { tenantDomain := some "bob.org", userId := some "uid-2" } })] }
    let steps : List (String × Step) :=
      [("alice", .authenticate { identity? := some (some alice), verdict := .ok ⟨.success, none⟩ })]
    let step : Step := .authenticate { verdict := .ok ⟨.failed, some "expired"⟩ }
    let turn : Turn := {
      attempt := "bob"
      task := .authenticateWithReport fun a =>
        .error (.plain .rejected "locked") { a with identity? := some alice }
      collaborators := s.directory.collaborators
      resolverFault? := some stop
      logFault? := fun _ => some stop }
    let bob : Attempt := attemptIn s.attempts "bob"
    (s.run (steps ++ [("bob", step)])).map (·.result) =
        [.error stop, .ok (.verdict ⟨.failed, some "expired"⟩ true none)] ∧
      Spared ["alice"] s.attempts (s.after steps).attempts ∧
      (attemptIn ((s.after steps).step "bob" step).2.attempts "bob").request = bob.request ∧
      (s.setup.answer turn s.attempts).result = .error stop ∧
      Spared ["bob"] s.attempts (s.setup.leave s.attempts [turn]) ∧
      (attemptIn (s.setup.leave s.attempts [turn]) "bob").request = bob.request ∧
      (s.setup.answer turn s.attempts).trace.calls = [] := by
  intro alice stop s steps step turn bob
  obtain ⟨hturn, hturns, hstep, hsteps⟩ := runs_framed s s.attempts
  have hspares : turn.task.SparesRequest := fun _ => rfl
  have hspared := hsteps steps fun named hn => by
    rw [List.mem_singleton.1 hn]
    exact nofun
  have hbob := (hstep steps "bob" step [] nofun).2.idle fun _ _ h => by
    cases h
    exact .inl rfl
  have hidle := (hturn [] turn [] hspares).2.idle fun _ _ h => by cases h
  refine ⟨rfl, hspared, ?_, rfl, hturns [turn] ?_, hidle.1, hidle.2⟩
  · rw [hbob.1, hspared.others "bob" (by decide)]
  · intro other ho
    rw [List.mem_singleton.1 ho]
    exact hspares

end Session

end Principal
