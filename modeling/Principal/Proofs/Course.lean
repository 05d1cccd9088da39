import Principal.Proofs.Noting

/-!
# Courses

The course of a computation is what it does apart from how its notes are taken: the calls it makes
and the events it notes, in order, and how it ends once all of them are done. Of each event it says
whether a failure is being handled when it is noted. A probe follows a course up to the first event
whose note raises.
-/

namespace Principal

inductive Act where
  | call (call : Call)
  | event (event : Event) (handling : Bool := false)
deriving DecidableEq, Repr

namespace Act

def call? : Act → Option Call
  | call c => some c
  | event _ _ => none

def event? : Act → Option Event
  | call _ => none
  | event e _ => some e

def calls (acts : List Act) : List Call :=
  acts.filterMap call?

def events (acts : List Act) : List Event :=
  acts.filterMap event?

@[simp] theorem calls_nil : calls [] = [] := rfl

@[simp] theorem events_nil : events [] = [] := rfl

@[simp] theorem calls_call (c : Call) (acts : List Act) :
    calls (.call c :: acts) = c :: calls acts := rfl

@[simp] theorem calls_event (e : Event) (handling : Bool) (acts : List Act) :
    calls (.event e handling :: acts) = calls acts := rfl

@[simp] theorem events_call (c : Call) (acts : List Act) :
    events (.call c :: acts) = events acts := rfl

@[simp] theorem events_event (e : Event) (handling : Bool) (acts : List Act) :
    events (.event e handling :: acts) = e :: events acts := rfl

@[simp] theorem calls_append (acts more : List Act) :
    calls (acts ++ more) = calls acts ++ calls more := List.filterMap_append

@[simp] theorem events_append (acts more : List Act) :
    events (acts ++ more) = events acts ++ events more := List.filterMap_append

theorem mem_events {e : Event} {acts : List Act} :
    e ∈ events acts ↔ ∃ handling, .event e handling ∈ acts := by
  unfold events
  rw [List.mem_filterMap]
  constructor
  · rintro ⟨_ | ⟨event, handling⟩, hact, he⟩
    · cases he
    · cases he
      exact ⟨handling, hact⟩
  · rintro ⟨handling, hact⟩
    exact ⟨_, hact, rfl⟩

end Act

namespace Probe

variable (p : Probe)

def perform : List Act → Traced Unit
  | [] => pure ()
  | .call c :: acts => do
      Traced.ask c (.ok ())
      perform acts
  | .event e handling :: acts => do
      (p.amid handling).note e
      perform acts

/-- The trace once every act is done and every note has left its record. -/
def traceOf (t : Trace) (acts : List Act) : Trace :=
  (t.called (Act.calls acts)).logged ((Act.events acts).flatMap p.kept)

@[simp] theorem traceOf_nil (t : Trace) : p.traceOf t [] = t := by simp [traceOf]

theorem traceOf_call (t : Trace) (c : Call) (acts : List Act) :
    p.traceOf t (.call c :: acts) = p.traceOf (t.called [c]) acts := by
  simp [traceOf]

theorem traceOf_event (t : Trace) (e : Event) (handling : Bool) (acts : List Act) :
    p.traceOf t (.event e handling :: acts) = p.traceOf (t.logged (p.kept e)) acts := by
  simp [traceOf, Trace.called_logged]

theorem traceOf_append (t : Trace) (acts more : List Act) :
    p.traceOf t (acts ++ more) = p.traceOf (p.traceOf t acts) more := by
  simp [traceOf, Trace.called_logged]

/-- No act of the list is an event whose note raises. -/
def Passes (acts : List Act) : Prop :=
  ∀ event ∈ Act.events acts, p.failure? event = none

variable {p}

theorem passes_of_steady (h : p.Steady) (acts : List Act) : p.Passes acts :=
  fun event _ => steady_iff.1 h event

@[simp] theorem passes_nil : p.Passes [] := by simp [Passes]

@[simp] theorem passes_call {c : Call} {acts : List Act} :
    p.Passes (.call c :: acts) ↔ p.Passes acts := by simp [Passes]

@[simp] theorem passes_event {e : Event} {handling : Bool} {acts : List Act} :
    p.Passes (.event e handling :: acts) ↔ p.failure? e = none ∧ p.Passes acts := by simp [Passes]

theorem passes_append {acts more : List Act} :
    p.Passes (acts ++ more) ↔ p.Passes acts ∧ p.Passes more := by
  unfold Passes
  rw [Act.events_append, List.forall_mem_append]

theorem perform_of_passes {acts : List Act} (h : p.Passes acts) (t : Trace) :
    p.perform acts t = .ok () (p.traceOf t acts) := by
  induction acts generalizing t with
  | nil => simp [perform, pure, EStateM.pure]
  | cons act acts ih =>
      cases act with
      | call c =>
          rw [traceOf_call, ← ih (passes_call.1 h)]
          rfl
      | event e handling =>
          obtain ⟨he, hacts⟩ := passes_event.1 h
          rw [traceOf_event, ← ih hacts]
          simp only [perform, bind, EStateM.bind,
            note_of_failure?_eq_none (failure?_amid_eq_none_iff.2 he), kept_amid]

/-- Acts that cannot all be done are cut short by the first event whose note raises. -/
theorem perform_cases (p : Probe) (acts : List Act) (t : Trace) :
    p.Passes acts ∨
      ∃ before event handling after e, acts = before ++ .event event handling :: after ∧
        p.Passes before ∧ (p.amid handling).failure? event = some e ∧
        p.perform acts t = .error e ((p.traceOf t before).logged (p.kept event)) := by
  induction acts generalizing t with
  | nil => exact .inl passes_nil
  | cons act acts ih =>
      cases act with
      | call c =>
          rcases ih (t.called [c]) with h | ⟨before, event, handling, after, e, rfl, hb, he, hr⟩
          · exact .inl (passes_call.2 h)
          · refine .inr ⟨.call c :: before, event, handling, after, e, rfl,
              passes_call.2 hb, he, ?_⟩
            rw [traceOf_call, ← hr]
            rfl
      | event x now =>
          cases hx : (p.amid now).failure? x with
          | some e =>
              refine .inr ⟨[], x, now, acts, e, rfl, passes_nil, hx, ?_⟩
              simp only [perform, bind, EStateM.bind, note_of_failure?_eq_some hx, traceOf_nil,
                kept_amid]
          | none =>
              have hx' := failure?_amid_eq_none_iff.1 hx
              rcases ih (t.logged (p.kept x)) with
                h | ⟨before, event, handling, after, e, rfl, hb, he, hr⟩
              · exact .inl (passes_event.2 ⟨hx', h⟩)
              · refine .inr ⟨.event x now :: before, event, handling, after, e, rfl,
                  passes_event.2 ⟨hx', hb⟩, he, ?_⟩
                rw [traceOf_event, ← hr]
                simp only [perform, bind, EStateM.bind, note_of_failure?_eq_none hx, kept_amid]

theorem perform_append (p : Probe) (acts more : List Act) :
    p.perform (acts ++ more) = (p.perform acts >>= fun _ => p.perform more) := by
  induction acts with
  | nil => rfl
  | cons act acts ih =>
      funext t
      cases act <;> simp only [List.cons_append, perform, ih, bind, EStateM.bind] <;> split <;> rfl

end Probe

structure Course (α : Type) where
  acts : List Act
  ending : Except Failure α

namespace Course

variable {α β : Type}

protected def pure (a : α) : Course α := ⟨[], .ok a⟩

protected def bind (x : Course α) (f : α → Course β) : Course β :=
  match x.ending with
  | .ok a => ⟨x.acts ++ (f a).acts, (f a).ending⟩
  | .error e => ⟨x.acts, .error e⟩

instance : Monad Course where
  pure := Course.pure
  bind := Course.bind

def ask (call : Call) (answer : Except Failure α) : Course α := ⟨[.call call], answer⟩

def note (event : Event) (handling : Bool := false) : Course Unit :=
  ⟨[.event event handling], .ok ()⟩

/-- The course with a recoverable failure as its answer. -/
def caught (x : Course α) : Course (Except Failure α) :=
  ⟨x.acts,
    match x.ending with
    | .ok a => .ok (.ok a)
    | .error e => if e.isRecoverable then .ok (.error e) else .error e⟩

def follow (p : Probe) (x : Course α) : Traced α := fun t =>
  match p.perform x.acts t, x.ending with
  | .ok _ u, .ok a => .ok a u
  | .ok _ u, .error e => .error e u
  | .error e u, _ => .error e u

@[simp] theorem follow_pure (p : Probe) (a : α) : (pure a : Course α).follow p = pure a := rfl

@[simp] theorem follow_ask (p : Probe) (call : Call) (answer : Except Failure α) :
    (ask call answer).follow p = Traced.ask call answer := by
  funext t
  cases answer <;> rfl

@[simp] theorem follow_note (p : Probe) (event : Event) (handling : Bool) :
    (note event handling).follow p = (p.amid handling).note event := by
  funext t
  simp only [follow, note, Probe.perform, bind, EStateM.bind]
  cases (p.amid handling).note event t <;> rfl

@[simp] theorem follow_bind (p : Probe) (x : Course α) (f : α → Course β) :
    (x >>= f).follow p = (x.follow p >>= fun a => (f a).follow p) := by
  funext t
  change (x.bind f).follow p t = _
  cases h : x.ending with
  | error e =>
      simp only [Course.bind, follow, h, bind, EStateM.bind]
      cases p.perform x.acts t <;> rfl
  | ok a =>
      simp only [Course.bind, follow, h, Probe.perform_append, bind, EStateM.bind]
      cases p.perform x.acts t <;> rfl

/-- Following a course whose notes all pass does all of its acts. -/
theorem follow_of_passes {p : Probe} {x : Course α} (h : p.Passes x.acts) (t : Trace) :
    x.follow p t =
      match x.ending with
      | .ok a => .ok a (p.traceOf t x.acts)
      | .error e => .error e (p.traceOf t x.acts) := by
  cases hx : x.ending <;> simp only [follow, Probe.perform_of_passes h, hx]

theorem bind_of_ok {x : Course α} {a : α} (h : x.ending = .ok a) (f : α → Course β) :
    x >>= f = ⟨x.acts ++ (f a).acts, (f a).ending⟩ := by
  change x.bind f = _
  simp only [Course.bind, h]

theorem bind_of_error {x : Course α} {e : Failure} (h : x.ending = .error e) (f : α → Course β) :
    x >>= f = ⟨x.acts, .error e⟩ := by
  change x.bind f = _
  simp only [Course.bind, h]

@[simp] theorem acts_pure (a : α) : (pure a : Course α).acts = [] := rfl

theorem acts_bind {x : Course α} {a : α} (h : x.ending = .ok a) (f : α → Course β) :
    (x >>= f).acts = x.acts ++ (f a).acts := by
  rw [bind_of_ok h]

theorem acts_note_bind (event : Event) (handling : Bool) (f : Unit → Course β) :
    (note event handling >>= f).acts = .event event handling :: (f ()).acts :=
  acts_bind rfl f

@[simp] theorem ending_pure (a : α) : (pure a : Course α).ending = .ok a := rfl

@[simp] theorem ending_ask (call : Call) (answer : Except Failure α) :
    (ask call answer).ending = answer := rfl

@[simp] theorem ending_bind (x : Course α) (f : α → Course β) :
    (x >>= f).ending = (x.ending >>= fun a => (f a).ending) := by
  cases h : x.ending with
  | error e => rw [bind_of_error h]; rfl
  | ok a => rw [bind_of_ok h]; rfl

theorem ending_bind_eq_ok {x : Course α} {f : α → Course β} {b : β} :
    (x >>= f).ending = .ok b ↔ ∃ a, x.ending = .ok a ∧ (f a).ending = .ok b := by
  cases h : x.ending with
  | error e => simp [bind_of_error h]
  | ok a => simp [bind_of_ok h]

theorem ending_bind_eq_error {x : Course α} {f : α → Course β} {e : Failure} :
    (x >>= f).ending = .error e ↔
      x.ending = .error e ∨ ∃ a, x.ending = .ok a ∧ (f a).ending = .error e := by
  cases h : x.ending with
  | error e' => simp [bind_of_error h]
  | ok a => simp [bind_of_ok h]

theorem ending_of_caught {x : Course α} {found : Except Failure α}
    (h : x.caught.ending = .ok found) : x.ending = found := by
  cases hx : x.ending with
  | ok a => simpa [caught, hx] using h
  | error e =>
      cases hr : e.isRecoverable with
      | true => simpa [caught, hx, hr] using h
      | false => simp [caught, hx, hr] at h

/-- A course keeps to `N` and `F` if it notes only events of `N`, and fails, if it does, at the last
call it makes and there in a way of `F`. -/
structure Keeps (x : Course α) (N : Event → Prop) (F : Call → Failure → Prop) : Prop where
  notes : ∀ event ∈ Act.events x.acts, N event
  fails : ∀ e, x.ending = .error e → ∃ before call, x.acts = before ++ [.call call] ∧ F call e

section Keeps

variable {N : Event → Prop} {F : Call → Failure → Prop} {x : Course α}

theorem keeps_pure (a : α) : (pure a : Course α).Keeps N F where
  notes _ he := absurd he List.not_mem_nil
  fails e he := by cases he

theorem keeps_note {event : Event} {handling : Bool} (h : N event) :
    (note event handling).Keeps N F where
  notes other ho := by rwa [List.mem_singleton.1 ho]
  fails e he := by cases he

theorem keeps_ask {call : Call} {answer : Except Failure α}
    (h : ∀ e, answer = .error e → F call e) :
    (ask call answer).Keeps N F where
  notes _ he := absurd he List.not_mem_nil
  fails e he := ⟨[], call, rfl, h e he⟩

theorem Keeps.caught (h : x.Keeps (fun _ => False) F) :
    x.caught.Keeps N fun call e => F call e ∧ e.isRecoverable = false := by
  refine ⟨fun event he => (h.notes event he).elim, ?_⟩
  intro e he
  cases hx : x.ending with
  | ok a => simp [Course.caught, hx] at he
  | error e' =>
      cases hr : e'.isRecoverable with
      | true => simp [Course.caught, hx, hr] at he
      | false =>
          have hee : e' = e := by simpa [Course.caught, hx, hr] using he
          subst hee
          obtain ⟨before, call, ha, hc⟩ := h.fails e' hx
          exact ⟨before, call, ha, hc, hr⟩

theorem Keeps.bind {f : α → Course β} (hx : x.Keeps N F)
    (hf : ∀ a, x.ending = .ok a → (f a).Keeps N F) : (x >>= f).Keeps N F := by
  cases h : x.ending with
  | error e =>
      rw [bind_of_error h]
      refine ⟨hx.notes, ?_⟩
      intro e' he
      exact hx.fails e' (by rw [h, Except.error.inj he])
  | ok a =>
      rw [bind_of_ok h]
      constructor
      · intro event he
        rw [Act.events_append, List.mem_append] at he
        exact he.elim (hx.notes event) ((hf a h).notes event)
      · intro e he
        obtain ⟨before, call, ha, hc⟩ := (hf a h).fails e he
        exact ⟨x.acts ++ before, call, by simp only [ha, List.append_assoc], hc⟩

theorem keeps_noted {event : Event} {handling : Bool} (h : N event) (a : α) :
    (note event handling >>= fun _ => pure a).Keeps N F :=
  (keeps_note h).bind fun _ _ => keeps_pure a

/-- Recovering from a course that notes nothing swallows no failure of a probe. -/
theorem follow_caught (h : ∀ event ∈ Act.events x.acts, False) (p : Probe) :
    x.caught.follow p = catching (x.follow p) := by
  funext t
  have hp : p.Passes x.acts := fun event he => (h event he).elim
  rw [follow_of_passes (x := x.caught) hp]
  simp only [catching, follow_of_passes hp, caught]
  cases x.ending with
  | ok a => rfl
  | error e => cases he : e.isRecoverable <;> simp [he]

theorem follow_caught_ask (p : Probe) (call : Call) (answer : Except Failure α) :
    (ask call answer).caught.follow p = catching (Traced.ask call answer) := by
  rw [follow_caught fun _ he => absurd he List.not_mem_nil, follow_ask]

end Keeps

end Course

end Principal
