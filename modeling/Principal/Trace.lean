import Principal.Event

/-!
# Traces

What a computation leaves behind whether it returns or raises: the calls it made to its
collaborators and the records it logged, each in order. `ask` makes a call, `catching` turns a
recoverable failure into an answer and lets an interrupt pass.
-/

namespace Principal

/-- A question put to a collaborator. -/
inductive Call where
  | tenantDomain (organization : String)
  | tenantId (domain : String)
  | userStore (tenant : Int)
  | user (userId : String) (storeDomain : Option String)
  | userId (username : String) (tenantDomain storeDomain : Option String)
deriving DecidableEq, Repr

/-- A logged event with its own fields and those of the observation it was logged under. -/
structure Record where
  level : Level
  name : String
  fields : Fields Json

/-- The record without the fields of other names than those asked for. -/
def Record.only (r : Record) (shows : String → Bool) : Record :=
  { r with fields := r.fields.filter fun (name, _) => shows name }

theorem Record.only_of_forall (r : Record) (shows : String → Bool)
    (h : ∀ field ∈ r.fields, shows field.1 = true) : r.only shows = r := by
  simp only [Record.only, List.filter_eq_self.2 h]

structure Trace where
  calls : List Call := []
  log : List Record := []

abbrev Traced := EStateM Failure Trace

namespace Traced

variable {α : Type}

/-- Records the call, then gives the collaborator's answer. -/
def ask (call : Call) (answer : Except Failure α) : Traced α := fun t =>
  match answer with
  | .ok a => .ok a { t with calls := t.calls ++ [call] }
  | .error e => .error e { t with calls := t.calls ++ [call] }

end Traced

section Catching

variable {σ α : Type}

def catching (x : EStateM Failure σ α) : EStateM Failure σ (Except Failure α) := fun s =>
  match x s with
  | .ok a s => .ok (.ok a) s
  | .error e s => if e.isRecoverable then .ok (.error e) s else .error e s

theorem catching_of_ok {x : EStateM Failure σ α} {s t : σ} {a : α} (h : x s = .ok a t) :
    catching x s = .ok (.ok a) t := by
  simp [catching, h]

theorem catching_of_error {x : EStateM Failure σ α} {s t : σ} {e : Failure}
    (h : x s = .error e t) (he : e.isRecoverable = true) :
    catching x s = .ok (.error e) t := by
  simp [catching, h, he]

theorem tryCatch_apply (x : EStateM Failure σ α) (f : Failure → EStateM Failure σ α) (s : σ) :
    tryCatch x f s =
      match x s with
      | .ok a t => .ok a t
      | .error e t => f e t := by
  change EStateM.tryCatch x f s = _
  delta EStateM.tryCatch
  dsimp only
  cases x s <;> rfl

end Catching

end Principal
