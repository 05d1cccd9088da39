/-!
# Decimal digits

Reading a run of decimal digits. Integers are read up to a length that keeps the work small.
-/

namespace Principal

def isDigit (c : Char) : Bool :=
  '0' ≤ c && c ≤ '9'

def digitValue (c : Char) : Nat :=
  c.toNat - 48

def digitsValue (cs : List Char) : Nat :=
  cs.foldl (fun n c => 10 * n + digitValue c) 0

/-- The greatest number of digits with which an integer is read. -/
def longestInteger : Nat := 4300

end Principal
