import Principal.Failure

/-!
# Outcomes

The verdict of an authentication strategy.
-/

namespace Principal

inductive Status where
  | success
  | failed
deriving DecidableEq, Repr

namespace Status

def name : Status → String
  | success => "success"
  | failed => "failed"

def ofName? : String → Option Status
  | "success" => some success
  | "failed" => some failed
  | _ => none

end Status

structure Outcome where
  status : Status
  detail : Option String := none
deriving DecidableEq, Repr

namespace Outcome

def isSuccess (outcome : Outcome) : Bool :=
  outcome.status = .success

/-- The outcome whose status has the given name. -/
def ofName (status : String) (detail : Option String := none) : Except Failure Outcome :=
  match Status.ofName? status with
  | some status => .ok ⟨status, detail⟩
  | none => .error (.plain .value (quoted status ++ " is not a valid AuthenticationStatus"))

end Outcome

end Principal
