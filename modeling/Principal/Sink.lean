import Principal.Event

/-!
# Sinks

What becomes of a record on its way into a log. A sink admits the records of some levels and shows
the fields of some names. The fields are handed through the parts of the sink by name, so a part
refuses a record with a field named like one of the part's own parameters. A field that is given
twice is refused before that, by a failure that depends on whether another one is being handled. A
sink that is not reliable may raise after it has taken a record.
-/

namespace Principal

/-- A part of a sink, with its name in failures. -/
structure Sink.Part where
  name : String
  parameters : List String
deriving DecidableEq, Repr

structure Sink where
  admits : Level → Bool := fun _ => true
  shows : String → Bool := fun _ => true
  /-- The name in failures of what takes the records of a level. -/
  entry : Level → String := Level.name
  /-- The parts that the fields of a record pass, which differ from level to level. -/
  parts : Level → List Sink.Part := fun _ => []
  reliable : Bool := false

namespace Sink

def Part.refusal? (part : Part) (names : List String) : Option Failure :=
  (names.find? fun name => part.parameters.contains name).map fun name =>
    .plain .type (part.name ++ "() got multiple values for argument '" ++ name ++ "'")

variable (s : Sink)

/-- The failure of the first part that refuses fields of the given names. -/
def refusal? (level : Level) (names : List String) : Option Failure :=
  (s.parts level).findSome? (·.refusal? names)

theorem refusal?_of_parts_eq_nil {level : Level} (h : s.parts level = []) (names : List String) :
    s.refusal? level names = none := by
  simp [refusal?, h]

/-- The failure for a field that is given twice. Where a failure is being handled, the new one tells
no more than the name of the field, as a key does that is there already. -/
def repeated (handling : Bool) (level : Level) (name : String) : Failure :=
  if handling then .plain .key name
  else
    .plain .type (s.entry level ++ "() got multiple values for keyword argument '" ++ name ++ "'")

theorem kind_repeated (handling : Bool) (level : Level) (name : String) :
    (s.repeated handling level name).kind ∈ [Failure.Kind.type, .key] := by
  cases handling with
  | true => exact .tail _ (.head _)
  | false => exact .head _

theorem isRecoverable_repeated (handling : Bool) (level : Level) (name : String) :
    (s.repeated handling level name).isRecoverable = true := by
  cases handling <;> rfl

end Sink

end Principal
