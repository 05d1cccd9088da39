import Principal.Number.Binary64

/-!
# The shortest decimal

A finite binary number is written with the fewest decimal digits that read back as it, and with
those nearest to it among the shortest. The digits stand without an exponent when the decimal
point falls at most three places before them or within the first sixteen.
-/

namespace Principal

namespace Binary64

/-- The fractions that round to `mantissa * 2 ^ exponent`. The gap below a power of two is half
as wide as the gap above it. -/
def roundsTo (mantissa : Nat) (exponent : Int) (x : Rat) : Bool :=
  let below : Rat := if mantissa = leastFull ∧ leastExponent < exponent then 1 / 4 else 1 / 2
  let least := (mantissa - below) * power 2 exponent
  let greatest := (mantissa + 1 / 2) * power 2 exponent
  if mantissa % 2 = 0 then least ≤ x && x ≤ greatest else least < x && x < greatest

/-- The multiple of `10 ^ place` next to the number that rounds to it, if there is one. -/
def onGrid? (mantissa : Nat) (exponent place : Int) : Option Nat :=
  let unit := power 10 place
  let scaled := mantissa * power 2 exponent / unit
  let below := scaled.floor.toNat
  let hits := [below, below + 1].filter fun (n : Nat) => roundsTo mantissa exponent (n * unit)
  match hits with
  | [] => none
  | [n] => some n
  | _ =>
      let rest := scaled - below
      if rest < 1 / 2 then some below
      else if 1 / 2 < rest then some (below + 1)
      else if below % 2 = 0 then some below
      else some (below + 1)

/-- A place at or above that of the first digit. -/
def topPlace (x : Rat) : Int :=
  if 1 ≤ x then (Nat.toDigits 10 x.floor.toNat).length
  else 2 - (Nat.toDigits 10 (1 / x).floor.toNat).length

/-- Moves the zeros at the end of the digits into the exponent. -/
def trimZeros (digits : Nat) (place : Int) : Nat × Int :=
  if digits ≠ 0 ∧ digits % 10 = 0 then trimZeros (digits / 10) (place + 1) else (digits, place)
termination_by digits
decreasing_by omega

/-- Digits and place of the shortest decimal that reads back as the number. -/
def shortest (mantissa : Nat) (exponent : Int) : Nat × Int :=
  let top := topPlace (mantissa * power 2 exponent)
  let found := (List.range 20).findSome? fun (n : Nat) =>
    (onGrid? mantissa exponent (top - n)).map fun digits => (digits, top - n)
  match found with
  | some (digits, place) => trimZeros digits place
  | none => (0, 0)

/-- Digits with their decimal point, `point` places from the first of them. -/
def layOut (digits : List Char) (point : Int) : List Char :=
  let zeros (n : Int) := List.replicate n.toNat '0'
  if -3 ≤ point ∧ point ≤ 16 then
    if point ≤ 0 then '0' :: '.' :: zeros (-point) ++ digits
    else if digits.length ≤ point then digits ++ zeros (point - digits.length) ++ ['.', '0']
    else digits.take point.toNat ++ '.' :: digits.drop point.toNat
  else
    let power := point - 1
    let size := Nat.toDigits 10 power.natAbs
    digits.take 1 ++ (if digits.length = 1 then [] else '.' :: digits.drop 1) ++
      'e' :: (if power < 0 then '-' else '+') :: zeros (2 - size.length) ++ size

def magnitude (mantissa : Nat) (exponent : Int) : List Char :=
  if mantissa = 0 then ['0', '.', '0']
  else
    let (digits, place) := shortest mantissa exponent
    let digits := Nat.toDigits 10 digits
    layOut digits (digits.length + place)

def text : Binary64 → String
  | nan => "nan"
  | infinite negative => if negative then "-inf" else "inf"
  | finite negative mantissa exponent =>
      String.ofList ((if negative then ['-'] else []) ++ magnitude mantissa exponent)

end Binary64

end Principal
