import Principal.Failure

/-!
# Reports

What one resolution did: whether it ran, the fields whose value it changed, and the failures it
recovered from, in the order in which they occurred.
-/

namespace Principal

structure Report where
  applied : Bool := false
  updatedFields : List String := []
  diagnostics : List Failure := []
deriving DecidableEq, Repr

namespace Report

/-- The report of a resolution that did not run. -/
def skipped : Report := {}

def isDegraded (r : Report) : Bool :=
  !r.diagnostics.isEmpty

def hasDiagnostic (r : Report) (kind : Failure.Kind) : Bool :=
  r.diagnostics.any (·.isA kind)

end Report

end Principal
