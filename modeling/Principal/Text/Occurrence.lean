/-!
# Occurrences of a separator

Where a separator occurs in a list of characters: the cut at its first occurrence, the cut at
its last, and the number of occurrences met by a scan from the left that never lets two of them
overlap. The empty separator occurs at both ends and between any two characters.
-/

namespace Principal

namespace Occurrence

variable (sep : List Char)

/-- The characters before and after the first occurrence of `sep`. -/
def cutFirst? : List Char → Option (List Char × List Char)
  | [] => if sep.isEmpty then some ([], []) else none
  | c :: cs =>
      if sep.isPrefixOf (c :: cs) then some ([], (c :: cs).drop sep.length)
      else (cutFirst? cs).map fun (before, after) => (c :: before, after)

/-- The characters before and after the last occurrence of `sep`, which may overlap others. -/
def cutLast? : List Char → Option (List Char × List Char)
  | [] => if sep.isEmpty then some ([], []) else none
  | c :: cs =>
      match cutLast? cs with
      | some (before, after) => some (c :: before, after)
      | none =>
          if sep.isPrefixOf (c :: cs) then some ([], (c :: cs).drop sep.length) else none

def occurs (cs : List Char) : Bool :=
  (cutFirst? sep cs).isSome

/-- Counts from the left, passing over the first `skip` characters without looking at them: they
belong to the occurrence found last. -/
def countFrom : Nat → List Char → Nat
  | _, [] => 0
  | skip + 1, _ :: cs => countFrom skip cs
  | 0, c :: cs =>
      if sep.isPrefixOf (c :: cs) then countFrom (sep.length - 1) cs + 1 else countFrom 0 cs

def count (cs : List Char) : Nat :=
  if sep.isEmpty then cs.length + 1 else countFrom sep 0 cs

end Occurrence

end Principal
