import Principal.Probe

/-!
# Noting an event

Whether a note raises, and what it leaves in the log, depends on the event alone and not on what
has been traced before it, nor on whether a failure is being handled. A steady probe never raises.
-/

namespace Principal

namespace Trace

variable (t : Trace)

def logged (records : List Record) : Trace :=
  { t with log := t.log ++ records }

def called (calls : List Call) : Trace :=
  { t with calls := t.calls ++ calls }

@[simp] theorem logged_nil : t.logged [] = t := by simp [logged]

@[simp] theorem logged_logged (records more : List Record) :
    (t.logged records).logged more = t.logged (records ++ more) := by
  simp [logged]

@[simp] theorem called_nil : t.called [] = t := by simp [called]

@[simp] theorem called_called (calls more : List Call) :
    (t.called calls).called more = t.called (calls ++ more) := by
  simp [called]

theorem called_logged (records : List Record) (calls : List Call) :
    (t.logged records).called calls = (t.called calls).logged records := rfl

end Trace

namespace Logger

variable (l : Logger)

/-- Why the logger raises on a record, if it does. -/
def failure? (record : Record) : Option Failure :=
  match l.refusal? record.level (Fields.keys record.fields) with
  | some e => some e
  | none => if l.admits record.level then l.fault? (record.only l.shows) else none

/-- The record as it is kept, if it is. -/
def kept (record : Record) : List Record :=
  match l.refusal? record.level (Fields.keys record.fields) with
  | some _ => []
  | none => if l.admits record.level then [record.only l.shows] else []

def Steady : Prop :=
  ∀ record t, ∃ u, l.keep record t = .ok () u

variable {l} {record : Record}

theorem keep_of_failure?_eq_none (h : l.failure? record = none) (t : Trace) :
    l.keep record t = .ok () (t.logged (l.kept record)) := by
  unfold failure? at h
  unfold keep kept
  cases hr : l.refusal? record.level (Fields.keys record.fields) with
  | some e => simp [hr] at h
  | none =>
      simp only [hr] at h
      by_cases ha : l.admits record.level = true
      · rw [if_pos ha] at h
        simp [ha, h, Trace.logged]
      · simp [ha]

theorem keep_of_failure?_eq_some {e : Failure} (h : l.failure? record = some e) (t : Trace) :
    l.keep record t = .error e (t.logged (l.kept record)) := by
  unfold failure? at h
  unfold keep kept
  cases hr : l.refusal? record.level (Fields.keys record.fields) with
  | some e' =>
      have he : e' = e := by simpa [hr] using h
      simp [he]
  | none =>
      simp only [hr] at h
      by_cases ha : l.admits record.level = true
      · rw [if_pos ha] at h
        simp [ha, h, Trace.logged]
      · simp [ha] at h

theorem eq_of_mem_kept {r : Record} (h : r ∈ l.kept record) : r = record.only l.shows := by
  unfold kept at h
  cases hr : l.refusal? record.level (Fields.keys record.fields) with
  | some e =>
      rw [hr] at h
      cases h
  | none =>
      simp only [hr] at h
      by_cases ha : l.admits record.level = true
      · rw [if_pos ha] at h
        exact List.mem_singleton.1 h
      · rw [if_neg ha] at h
        cases h

theorem failure?_eq_none_iff :
    l.failure? record = none ↔ ∀ t, ∃ u, l.keep record t = .ok () u := by
  refine ⟨fun h t => ⟨_, keep_of_failure?_eq_none h t⟩, fun h => ?_⟩
  obtain ⟨u, hu⟩ := h {}
  cases hf : l.failure? record with
  | none => rfl
  | some e =>
      rw [keep_of_failure?_eq_some hf] at hu
      cases hu

theorem steady_iff : l.Steady ↔ ∀ record, l.failure? record = none :=
  forall_congr' fun _ => failure?_eq_none_iff.symm

/-- The logger never raises and keeps every record as it is. -/
def Recording (l : Logger) : Prop :=
  ∀ record t, l.keep record t = .ok () (t.logged [record])

theorem Recording.steady (h : l.Recording) : l.Steady :=
  fun record t => ⟨_, h record t⟩

theorem Recording.kept_eq (h : l.Recording) (record : Record) : l.kept record = [record] := by
  have hk := keep_of_failure?_eq_none (steady_iff.1 h.steady record) {}
  rw [h record] at hk
  simpa [Trace.logged] using hk.symm

theorem recording_default : ({} : Logger).Recording := by
  intro record t
  have honly : record.only (fun _ => true) = record := record.only_of_forall _ fun _ _ => rfl
  have hrefusal : ({} : Sink).refusal? record.level (Fields.keys record.fields) = none :=
    Sink.refusal?_of_parts_eq_nil {} rfl _
  simp only [keep, hrefusal, honly, if_true]
  rfl

end Logger

/-- The names of an event's fields, which masking leaves as they are. -/
def Event.names (event : Event) : List String :=
  Fields.keys (event.fields false)

theorem Event.keys_fields (event : Event) (masked : Bool) :
    Fields.keys (event.fields masked) = event.names := by
  cases event <;> rfl

/-- The names of all fields of all events. -/
def Event.allNames : List String :=
  ["reason", "username", "identity_tenant_domain", "request_tenant_domain", "user_id",
    "organization_user", "error", "error_type", "resident_organization_id",
    "accessing_organization_id", "organization_id", "tenant_id", "resident_tenant_domain",
    "fields", "handler", "detail"]

theorem Event.names_subset (event : Event) : event.names ⊆ allNames := by
  cases event <;> simp [names, fields, failureFields, Fields.keys, allNames]

namespace Probe

variable (p : Probe)

/-- Why noting an event raises, if it does. -/
def failure? (event : Event) : Option Failure :=
  match p.clash? event with
  | some key => some (p.logger.repeated p.handling event.level key)
  | none => p.logger.failure? (p.record event)

/-- The record that noting an event leaves in the log, if any. -/
def kept (event : Event) : List Record :=
  match p.clash? event with
  | some _ => []
  | none => p.logger.kept (p.record event)

def Steady : Prop :=
  ∀ event t, ∃ u, p.note event t = .ok () u

variable {p} {event : Event}

theorem note_of_failure?_eq_none (h : p.failure? event = none) (t : Trace) :
    p.note event t = .ok () (t.logged (p.kept event)) := by
  unfold failure? at h
  unfold note kept
  cases hc : p.clash? event with
  | some key => simp [hc] at h
  | none =>
      simp only [hc] at h
      exact Logger.keep_of_failure?_eq_none h t

theorem note_of_failure?_eq_some {e : Failure} (h : p.failure? event = some e) (t : Trace) :
    p.note event t = .error e (t.logged (p.kept event)) := by
  unfold failure? at h
  unfold note kept
  cases hc : p.clash? event with
  | some key =>
      have he : p.logger.repeated p.handling event.level key = e := by simpa [hc] using h
      simp only [Trace.logged_nil, he]
      rfl
  | none =>
      simp only [hc] at h
      exact Logger.keep_of_failure?_eq_some h t

/-- Whether or not the note raises, it leaves the same in the log. -/
theorem note_cases (p : Probe) (event : Event) (t : Trace) :
    p.note event t = .ok () (t.logged (p.kept event)) ∨
      ∃ e, p.note event t = .error e (t.logged (p.kept event)) := by
  cases hf : p.failure? event with
  | none => exact .inl (note_of_failure?_eq_none hf t)
  | some e => exact .inr ⟨e, note_of_failure?_eq_some hf t⟩

theorem mem_kept_logger {r : Record} (h : r ∈ p.kept event) :
    r ∈ p.logger.kept (p.record event) := by
  unfold kept at h
  cases hc : p.clash? event with
  | some key =>
      rw [hc] at h
      cases h
  | none => rwa [hc] at h

theorem eq_of_mem_kept {r : Record} (h : r ∈ p.kept event) :
    r = (p.record event).only p.logger.shows :=
  Logger.eq_of_mem_kept (mem_kept_logger h)

theorem failure?_eq_none_iff :
    p.failure? event = none ↔ ∀ t, ∃ u, p.note event t = .ok () u := by
  constructor
  · intro h t
    exact ⟨_, note_of_failure?_eq_none h t⟩
  · intro h
    obtain ⟨u, hu⟩ := h {}
    cases hf : p.failure? event with
    | none => rfl
    | some e =>
        rw [note_of_failure?_eq_some hf] at hu
        cases hu

theorem steady_iff : p.Steady ↔ ∀ event, p.failure? event = none :=
  forall_congr' fun _ => failure?_eq_none_iff.symm

theorem note_of_steady (h : p.Steady) (event : Event) (t : Trace) :
    p.note event t = .ok () (t.logged (p.kept event)) :=
  note_of_failure?_eq_none (steady_iff.1 h event) t

theorem failure?_eq_none_iff_clash? :
    p.failure? event = none ↔
      p.clash? event = none ∧ p.logger.failure? (p.record event) = none := by
  unfold failure?
  cases p.clash? event <;> simp

theorem kept_of_recording (h : p.Steady) (hl : p.logger.Recording) (event : Event) :
    p.kept event = [p.record event] := by
  have hc := (failure?_eq_none_iff_clash?.1 (steady_iff.1 h event)).1
  unfold kept
  rw [hc]
  exact hl.kept_eq _

section Amid

variable {handling : Bool}

@[simp] theorem amid_false (p : Probe) : p.amid false = p := rfl

@[simp] theorem kept_amid : (p.amid handling).kept event = p.kept event := rfl

/-- Handling a failure decides how a note fails, and not whether it does. -/
@[simp] theorem failure?_amid_eq_none_iff :
    (p.amid handling).failure? event = none ↔ p.failure? event = none := by
  rw [failure?_eq_none_iff_clash?, failure?_eq_none_iff_clash?]
  rfl

theorem Steady.amid (h : p.Steady) : (p.amid handling).Steady :=
  steady_iff.2 fun event => failure?_amid_eq_none_iff.2 (steady_iff.1 h event)

end Amid

section Unobserved

variable (ho : p.observation? = none)

include ho

theorem clash?_of_unobserved (event : Event) : p.clash? event = none := by
  simp [clash?, observed, ho, Fields.keys]

theorem failure?_of_unobserved (event : Event) :
    p.failure? event = p.logger.failure? (p.record event) := by
  simp only [failure?, clash?_of_unobserved ho]

theorem kept_of_unobserved (event : Event) : p.kept event = p.logger.kept (p.record event) := by
  simp only [kept, clash?_of_unobserved ho]

end Unobserved

/-- A probe under no observation is as steady as its logger. -/
theorem steady_of_logger (h : p.logger.Steady) (ho : p.observation? = none) : p.Steady := by
  rw [steady_iff]
  intro event
  rw [failure?_of_unobserved ho]
  exact Logger.steady_iff.1 h _

end Probe

end Principal
