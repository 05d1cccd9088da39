import Principal.Observation
import Principal.Sink
import Principal.Trace

/-!
# Probes

A probe notes events in the log under an observation. The fields of the two are given side by
side, so a name that both carry makes the note fail with nothing logged. A logger keeps the
records that its sink takes and admits, with the fields shown, and may raise once it has kept one.
A probe may be used while a failure is being handled, which matters only to how a note fails.
-/

namespace Principal

structure Logger extends Sink where
  fault? : Record → Option Failure := fun _ => none

namespace Logger

def keep (logger : Logger) (record : Record) : Traced Unit := fun t =>
  match logger.refusal? record.level (Fields.keys record.fields) with
  | some e => .error e t
  | none =>
      if logger.admits record.level then
        let kept := record.only logger.shows
        match logger.fault? kept with
        | none => .ok () { t with log := t.log ++ [kept] }
        | some e => .error e { t with log := t.log ++ [kept] }
      else .ok () t

end Logger

structure Probe where
  masked : Bool := false
  observation? : Option Observation := none
  logger : Logger := {}
  handling : Bool := false

namespace Probe

variable (p : Probe)

/-- The probe as it is used while a failure is being handled, or else wherever it was. -/
def amid (handling : Bool := true) : Probe :=
  { p with handling := handling || p.handling }

/-- The probe bound to an observation, in place of any that it had. -/
def under (o : Observation) : Probe :=
  { p with observation? := some o }

def observed : Fields Json :=
  match p.observation? with
  | some o => o.fields
  | none => []

/-- The first name of the observation that the event carries too. -/
def clash? (event : Event) : Option String :=
  (Fields.keys p.observed).find? fun key => Fields.contains key (event.fields p.masked)

def record (event : Event) : Record where
  level := event.level
  name := event.name
  fields := event.fields p.masked ++ p.observed

def note (event : Event) : Traced Unit :=
  match p.clash? event with
  | some key => throw (p.logger.repeated p.handling event.level key)
  | none => p.logger.keep (p.record event)

end Probe

end Principal
