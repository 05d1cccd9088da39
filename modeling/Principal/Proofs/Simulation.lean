import Principal.Proofs.Handling

/-!
# Simulation

A computation goes along with another through a map of states if, from the image of any state, it
ends as the other does and leaves the image of what the other leaves. Two probes that raise at the
same events, where the one keeps what a filter makes of the records that the other keeps, are told
apart by the log alone: whatever is done with the one goes along with the same done with the other.
-/

namespace Principal

/-- The result with the image of the state that it leaves. -/
def leaving {σ τ α : Type} (φ : σ → τ) :
    EStateM.Result Failure σ α → EStateM.Result Failure τ α
  | .ok a s => .ok a (φ s)
  | .error e s => .error e (φ s)

/-- From the image of a state, `y` ends as `x` does from the state itself. -/
def Along {σ τ α : Type} (φ : σ → τ) (x : EStateM Failure σ α) (y : EStateM Failure τ α) : Prop :=
  ∀ s, y (φ s) = leaving φ (x s)

section Along

variable {σ τ α β : Type} {φ : σ → τ} {x : EStateM Failure σ α} {y : EStateM Failure τ α}

@[simp] theorem leaving_ok (a : α) (s : σ) :
    leaving φ (.ok a s : EStateM.Result Failure σ α) = .ok a (φ s) := rfl

@[simp] theorem leaving_error (e : Failure) (s : σ) :
    leaving φ (.error e s : EStateM.Result Failure σ α) = .error e (φ s) := rfl

theorem along_pure (a : α) : Along φ (pure a) (pure a) := fun _ => rfl

theorem along_throw (e : Failure) : Along φ (throw e : EStateM Failure σ α) (throw e) :=
  fun _ => rfl

theorem Along.bind {f : α → EStateM Failure σ β} {g : α → EStateM Failure τ β}
    (h : Along φ x y) (hf : ∀ a, Along φ (f a) (g a)) : Along φ (x >>= f) (y >>= g) := by
  intro s
  simp only [Bind.bind, EStateM.bind, h s]
  cases x s with
  | ok a t => exact hf a t
  | error e t => rfl

theorem Along.catching (h : Along φ x y) : Along φ (catching x) (catching y) := by
  intro s
  simp only [Principal.catching, h s]
  cases x s with
  | ok a t => rfl
  | error e t => cases he : e.isRecoverable <;> simp [he]

theorem Along.tryCatch {f : Failure → EStateM Failure σ α} {g : Failure → EStateM Failure τ α}
    (h : Along φ x y) (hf : ∀ e, Along φ (f e) (g e)) :
    Along φ (tryCatch x f) (tryCatch y g) := by
  intro s
  rw [tryCatch_apply, tryCatch_apply, h s]
  cases x s with
  | ok a t => rfl
  | error e t => exact hf e t

end Along

/-- The trace with its records passed through a filter that may change them. -/
def Trace.through (f : Record → Option Record) (t : Trace) : Trace :=
  { t with log := t.log.filterMap f }

def Scene.through (f : Record → Option Record) (s : Scene) : Scene :=
  { s with trace := s.trace.through f }

@[simp] theorem Scene.attempt_through (f : Record → Option Record) (s : Scene) :
    (s.through f).attempt = s.attempt := rfl

@[simp] theorem Scene.trace_through (f : Record → Option Record) (s : Scene) :
    (s.through f).trace = s.trace.through f := rfl

theorem Trace.through_logged (f : Record → Option Record) (t : Trace) (records : List Record) :
    (t.logged records).through f = (t.through f).logged (records.filterMap f) := by
  simp only [through, logged, List.filterMap_append]

/-- The second probe raises where the first does, and keeps what the filter makes of the records
that the first keeps. -/
structure Probe.Through (f : Record → Option Record) (p q : Probe) : Prop where
  failure : ∀ handling event, (q.amid handling).failure? event = (p.amid handling).failure? event
  kept : ∀ event, q.kept event = (p.kept event).filterMap f

section Through

variable {f : Record → Option Record} {p q : Probe} {α : Type}

theorem Along.staged {x y : Traced α} (h : Along (Trace.through f) x y) :
    Along (Scene.through f) x.staged y.staged := by
  intro s
  simp only [Traced.staged, Scene.trace_through, h s.trace]
  cases x s.trace <;> rfl

theorem along_ask (call : Call) (answer : Except Failure α) :
    Along (Trace.through f) (Traced.ask call answer) (Traced.ask call answer) := by
  intro t
  cases answer <;> rfl

theorem Strategy.along_staged (strategy : Strategy) :
    Along (Scene.through f) strategy.staged strategy.staged := by
  intro s
  simp only [Strategy.staged, Scene.attempt_through]
  cases strategy s.attempt <;> rfl

namespace Probe.Through

variable (h : p.Through f q)

include h

theorem along_note (handling : Bool) (event : Event) :
    Along (Trace.through f) ((p.amid handling).note event) ((q.amid handling).note event) := by
  intro t
  have hq := h.failure handling event
  cases hp : (p.amid handling).failure? event with
  | none =>
      rw [hp] at hq
      rw [note_of_failure?_eq_none hp, note_of_failure?_eq_none hq, kept_amid, kept_amid, h.kept,
        leaving_ok, Trace.through_logged]
  | some e =>
      rw [hp] at hq
      rw [note_of_failure?_eq_some hp, note_of_failure?_eq_some hq, kept_amid, kept_amid, h.kept,
        leaving_error, Trace.through_logged]

theorem along_perform (acts : List Act) :
    Along (Trace.through f) (p.perform acts) (q.perform acts) := by
  induction acts with
  | nil => exact along_pure ()
  | cons act acts ih =>
      cases act with
      | call c => exact (along_ask c (.ok ())).bind fun _ => ih
      | event e handling => exact (h.along_note handling e).bind fun _ => ih

theorem along_follow (x : Course α) : Along (Trace.through f) (x.follow p) (x.follow q) := by
  intro t
  simp only [Course.follow, h.along_perform x.acts t]
  cases p.perform x.acts t with
  | ok _ u => cases x.ending <;> rfl
  | error e u => rfl

end Probe.Through

namespace Resolver

variable {r : Resolver} (h : r.probe.Through f q)

include h

theorem along_settle (d? : Option Decision) :
    Along (Scene.through f) (r.settle d?) ({ r with probe := q }.settle d?) := by
  intro s
  simp only [settle, Scene.attempt_through, Scene.trace_through, h.along_perform _ s.trace]
  cases r.probe.perform (closing s.attempt.request d?) s.trace <;> rfl

theorem along_resolve (outcome : Outcome) (identity? : Option Identity) :
    Along (Scene.through f) (r.resolve outcome identity?)
      ({ r with probe := q }.resolve outcome identity?) := by
  intro s
  -- A course mentions no probe, so both calls take the same one.
  rw [resolve_eq, resolve_eq]
  exact ((h.along_follow _).staged.bind fun d? => along_settle h d?) s

end Resolver

namespace Handler

variable {h : Handler} (hq : h.probe.Through f q) {publication publication' : Publication}

include hq

theorem along_verdict (strategy : Strategy) :
    Along (Scene.through f) (h.verdict strategy) ({ h with probe := q }.verdict strategy) := by
  apply (Strategy.along_staged strategy).tryCatch
  intro e
  cases he : e.isA .authentication with
  | false => exact along_throw e
  | true => exact (hq.along_note true _).staged.bind fun _ => along_throw e

theorem along_postAuthenticate
    (hp : ∀ outcome identity?,
      Along (Scene.through f) (publication outcome identity?) (publication' outcome identity?))
    (outcome : Outcome) :
    Along (Scene.through f) (h.postAuthenticate publication outcome)
      ({ h with probe := q }.postAuthenticate publication' outcome) := by
  intro s
  rw [postAuthenticate_apply, postAuthenticate_apply, Scene.attempt_through,
    (hp outcome s.attempt.identity?).catching s]
  match catching (publication outcome s.attempt.identity?) s with
  | .ok (.ok report) t => rfl
  | .ok (.error e) t =>
      have hn := hq.along_note true (.publicationFailed h.name e) t.trace
      simp only [leaving_ok, Scene.trace_through, hn]
      cases h.probe.amid.note (.publicationFailed h.name e) t.trace <;> rfl
  | .error e t => rfl

theorem along_authenticateWithReport
    (hp : ∀ outcome identity?,
      Along (Scene.through f) (publication outcome identity?) (publication' outcome identity?))
    (strategy : Strategy) :
    Along (Scene.through f) (h.authenticateWithReport strategy publication)
      ({ h with probe := q }.authenticateWithReport strategy publication') := by
  apply (along_verdict hq strategy).bind
  intro outcome
  rw [noteVerdict_eq, noteVerdict_eq]
  apply (hq.along_note false _).staged.bind
  intro _
  apply (along_postAuthenticate hq hp outcome).bind
  intro report
  exact along_pure _

theorem along_authenticate
    (hp : ∀ outcome identity?,
      Along (Scene.through f) (publication outcome identity?) (publication' outcome identity?))
    (strategy : Strategy) :
    Along (Scene.through f) (h.authenticate strategy publication)
      ({ h with probe := q }.authenticate strategy publication') :=
  (along_authenticateWithReport hq hp strategy).bind fun _ => along_pure _

end Handler

end Through

end Principal
