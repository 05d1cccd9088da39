import Principal.Number.Digits
import Principal.Text.Occurrence

/-!
# Numerals

Integers as people write them. A numeral may have a sign, zeros in front, underscores between its
digits, and a point with zeros behind. All of that is dropped first; what is left has to be a
numeral in its plain form, which has a limited length.
-/

namespace Principal

namespace Numeral

/-- The value of a plain numeral: digits, of which the first is a zero only if it is the only
one. -/
def plain? (cs : List Char) : Option Nat :=
  if cs.all isDigit && !cs.isEmpty && (cs.head? ≠ some '0' || cs.length = 1) &&
      cs.length ≤ longestInteger then
    some (digitsValue cs)
  else none

/-- The value of a plain numeral that may have a minus sign. -/
def signed? : List Char → Option Int
  | '-' :: cs => (plain? cs).map fun (n : Nat) => -(n : Int)
  | cs => (plain? cs).map fun (n : Nat) => (n : Int)

/-- Drops what belongs to the zeros in front once one of them, or an underscore after it, has been
read as `last`. The minus sign of a number may come as late as this. -/
def afterZero (last : Char) : List Char → Option (List Char)
  | [] => some [last]
  | c :: cs =>
      if c = '0' || c = '_' then afterZero c cs
      else if c = '.' then some (last :: c :: cs)
      else if isDigit c || c = '-' then some (c :: cs)
      else none

/-- Drops the zeros in front, and underscores among them, but keeps the last before a point or
the end. -/
def dropZeros? : List Char → Option (List Char)
  | [] => none
  | c :: cs =>
      if c = '0' then afterZero c cs
      else if isDigit c then some (c :: cs)
      else none

/-- Drops the first point with what stands behind it if that is nothing but zeros. -/
def dropPoint (cs : List Char) : List Char :=
  let zeros := (cs.dropWhile (· ≠ '.')).tail
  if !zeros.isEmpty && zeros.all (· = '0') then cs.takeWhile (· ≠ '.') else cs

/-- Drops underscores that stand one at a time between other characters. -/
def dropUnderscores (cs : List Char) : List Char :=
  if cs.head? = some '_' || cs.getLast? = some '_' || Occurrence.occurs ['_', '_'] cs then cs
  else cs.filter (· ≠ '_')

def bare? (cs : List Char) : Option (List Char) :=
  (dropZeros? cs).map fun cs => dropUnderscores (dropPoint cs)

def integer? : List Char → Option Int
  | '-' :: cs => ((bare? cs).bind plain?).map fun (n : Nat) => -(n : Int)
  | '+' :: cs => (bare? cs).bind signed?
  | cs => (bare? cs).bind signed?

/-- A text that starts with more digits than a plain numeral may have. -/
def isTooLong (cs : List Char) : Bool :=
  let unsigned :=
    match cs with
    | '-' :: cs => cs
    | cs => cs
  let digits := unsigned.takeWhile isDigit
  digits.head? ≠ some '0' && longestInteger < digits.length

end Numeral

end Principal
