/-!
# JSON texts

The texts of JSON are sequences of code points rather than of characters: an escape may name one
half of a surrogate pair, and a half whose partner is missing stands for no character. A text with
such a half is ill-formed; all others are strings.
-/

namespace Principal.Json

inductive Text where
  | whole (value : String)
  | illFormed (points : List Nat)
deriving DecidableEq, Repr

namespace Text

instance : Coe String Text := ⟨whole⟩

def isHalf (point : Nat) : Bool :=
  0xd800 ≤ point && point < 0xe000

def isPair (high low : Nat) : Bool :=
  0xd800 ≤ high && high < 0xdc00 && 0xdc00 ≤ low && low < 0xe000

/-- Puts one code point in the place of each pair of halves. -/
def joinPairs : List Nat → List Nat
  | high :: low :: rest =>
      if isPair high low then
        (0x10000 + (high - 0xd800) * 0x400 + (low - 0xdc00)) :: joinPairs rest
      else high :: joinPairs (low :: rest)
  | [point] => [point]
  | [] => []

/-- The text of code points, in which halves may still stand apart. -/
def ofPoints (points : List Nat) : Text :=
  let points := joinPairs points
  if points.any isHalf then illFormed points else whole (String.ofList (points.map Char.ofNat))

/-- A half is shown by three replacement characters, one for each byte it would be encoded by. -/
def showPoint (point : Nat) : List Char :=
  if isHalf point then List.replicate 3 '\ufffd' else [Char.ofNat point]

def shown : Text → String
  | whole value => value
  | illFormed points => String.ofList (points.flatMap showPoint)

def whole? : Text → Option String
  | whole value => some value
  | illFormed _ => none

end Text

end Principal.Json
