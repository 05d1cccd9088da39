import Principal.Sink
import Principal.Text.Uppercase

/-!
# Logging

A configuration of the log: the least rank of the levels that get through and the stages that an
event passes. Colours for a terminal and lines of JSON differ in the last stages only. What takes
the records and what the stages do to them is up to a library. It is relied on to let through the
records that it is configured for, and to keep no more names for itself than it is documented to.
-/

namespace Principal

structure Logging where
  colored : Bool
  leastRank : Nat
deriving DecidableEq, Repr

namespace Logging

inductive Stage where
  | contextVariables
  | level
  | timestamp
  | stackInfo
  | failureText
  | jsonLine
  | coloredLine
deriving DecidableEq, Repr

/-- A library of logs, by what it does with the records that get through and with the others. -/
structure Library where
  /-- Whether the records of a level get through if a rank is the least to do so. -/
  admits : Nat → Level → Bool
  /-- The name in failures of what takes a record. -/
  method : Bool → String
  /-- The parts that the fields of a record pass by name. -/
  parts : Bool → List Sink.Part
  /-- The names of the fields that a stage does not hand on as they are. -/
  takes : Stage → List String

/-- The parameters of the methods that a record is logged by and passed on under. -/
def parameters : List String := ["self", "event", "method_name"]

/-- The fields that a stage may put in, overwrite or take out. -/
def Stage.fields : Stage → List String
  | contextVariables | jsonLine => []
  | level => ["level"]
  | timestamp => ["timestamp"]
  | stackInfo => ["stack_info", "stack"]
  | failureText => ["exc_info", "exception"]
  | coloredLine =>
      ["timestamp", "level", "logger", "logger_name", "stack", "exception", "exc_info"]

namespace Library

structure Documented (library : Library) : Prop where
  admits : ∀ leastRank level, library.admits leastRank level = decide (leastRank ≤ level.rank)
  parameters : ∀ through, ∀ part ∈ library.parts through, part.parameters ⊆ Logging.parameters
  fields : ∀ stage, library.takes stage ⊆ stage.fields

/-- The library as it is, where nobody asks for a stack or for the text of a failure: a record that
gets through is passed on under the name of its method, and one that does not goes to a method that
does nothing with it. -/
def standard : Library where
  admits leastRank level := leastRank ≤ level.rank
  method through :=
    "structlog._native." ++
      if through then "_make_filtering_bound_logger.<locals>.make_method.<locals>.meth"
      else "_nop"
  parts through :=
    if through then
      [⟨"_make_filtering_bound_logger.<locals>.make_method.<locals>.meth", ["self", "event"]⟩,
        ⟨"BoundLoggerBase._proxy_to_logger", ["method_name"]⟩]
    else [⟨"_nop", ["self", "event"]⟩]
  takes
    | .stackInfo => ["stack_info"]
    | .failureText => ["exc_info"]
    | stage => stage.fields

theorem documented_standard : standard.Documented where
  admits _ _ := rfl
  parameters through := by cases through <;> decide
  fields stage := by cases stage <;> decide

end Library

def shared : List Stage :=
  [.contextVariables, .level, .timestamp, .stackInfo]

def ranks : List (String × Nat) :=
  [("CRITICAL", 50), ("FATAL", 50), ("ERROR", 40), ("WARNING", 30), ("WARN", 30), ("INFO", 20),
    ("DEBUG", 10), ("NOTSET", 0)]

/-- The values of the variable that asks for colours where there is no terminal. -/
def colorWords : List String := ["1", "true", "yes"]

/-- The configuration for the least level of a name, of either case. -/
def configure (level : String := "INFO") (forceColor : String := "") (terminal : Bool := false) :
    Except Failure Logging :=
  match ranks.lookup (upperCase level) with
  | some leastRank =>
      .ok { colored := forceColor.map Char.toLower ∈ colorWords || terminal, leastRank }
  | none => .error (.plain .value ("Unknown log level: " ++ level))

variable (l : Logging)

def stages : List Stage :=
  shared ++ if l.colored then [.coloredLine] else [.failureText, .jsonLine]

/-- The levels whose records get through. -/
def admitted (library : Library := .standard) : List Level :=
  Level.all.filter (library.admits l.leastRank)

variable (library : Library)

def shows (name : String) : Bool :=
  !(l.stages.flatMap library.takes).contains name

def sink : Sink where
  admits := library.admits l.leastRank
  shows := l.shows library
  entry level := library.method (library.admits l.leastRank level)
  parts level := library.parts (library.admits l.leastRank level)
  reliable := true

end Logging

end Principal
