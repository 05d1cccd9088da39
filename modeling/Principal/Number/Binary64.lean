/-!
# Binary floating point

Numbers of the binary64 format as exact values: a finite one is a mantissa below `2 ^ 53` times a
power of two. Reading a decimal rounds it to the nearest such number, a tie going to the even
mantissa, and all of it is computed with integers and fractions.
-/

namespace Principal

inductive Binary64 where
  | nan
  | infinite (negative : Bool)
  | finite (negative : Bool) (mantissa : Nat) (exponent : Int)
deriving DecidableEq, Repr

namespace Binary64

/-- The power `base ^ e` for an exponent of either sign. -/
def power (base : Nat) (e : Int) : Rat :=
  if 0 ≤ e then (base.pow e.toNat : Nat) else 1 / (base.pow (-e).toNat : Nat)

/-- The least mantissa of 53 bits. -/
def leastFull : Nat := Nat.pow 2 52

/-- The least number of 54 bits, which no mantissa reaches. -/
def mantissaBound : Nat := 2 * leastFull

def leastExponent : Int := -1074

def greatestExponent : Int := 971

/-- The nearest integer, the even one of two equally near. -/
def roundEven (x : Rat) : Int :=
  let below := x.floor
  let rest := x - below
  if rest < 1 / 2 then below
  else if 1 / 2 < rest then below + 1
  else if below % 2 = 0 then below
  else below + 1

/-- The exponent that leaves `x` a mantissa of 53 bits, or the least one. -/
def exponentOf (x : Rat) : Int :=
  let guess := max leastExponent ((x.num.toNat.log2 : Int) - x.den.log2 - 53)
  if (mantissaBound : Rat) ≤ x / power 2 guess then guess + 1 else guess

/-- The number nearest to the fraction `x`, which is not negative. -/
def ofRat (negative : Bool) (x : Rat) : Binary64 :=
  let exponent := exponentOf x
  let mantissa := (roundEven (x / power 2 exponent)).toNat
  let (mantissa, exponent) :=
    if mantissa = mantissaBound then (leastFull, exponent + 1) else (mantissa, exponent)
  if greatestExponent < exponent then infinite negative else finite negative mantissa exponent

/-- The number nearest to `digits * 10 ^ exponent`. Magnitudes far outside the format are settled
by their size alone. -/
def ofDecimal (negative : Bool) (digits : Nat) (exponent : Int) : Binary64 :=
  let size := (Nat.toDigits 10 digits).length + exponent
  if digits = 0 ∨ size < -400 then finite negative 0 leastExponent
  else if 400 < size then infinite negative
  else ofRat negative (digits * power 10 exponent)

/-- The integer that a number is, if it is one. -/
def toInt? : Binary64 → Option Int
  | nan => none
  | infinite _ => none
  | finite negative mantissa exponent =>
      let signed (n : Nat) : Int := if negative then -n else n
      let scale := Nat.pow 2 exponent.natAbs
      if 0 ≤ exponent then some (signed (mantissa * scale))
      else if mantissa % scale = 0 then some (signed (mantissa / scale))
      else none

end Binary64

end Principal
