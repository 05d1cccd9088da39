import Principal.Json.Basic
import Principal.Number.Numeral
import Principal.Settings.Issue

/-!
# Reading settings

How a raw value is read as a text, a flag or an integer. Checks that stand side by side are all
made, and their details are put together.
-/

namespace Principal.Settings

/-- A value, or the details of everything found wrong with it. -/
abbrev Checked (α : Type) := Except (List Detail) α

namespace Checked

variable {α β : Type}

def located (location : List String) (x : Except Issue α) : Checked α :=
  x.mapError fun issue => [⟨location, issue⟩]

def both (x : Checked α) (y : Checked β) : Checked (α × β) :=
  match x, y with
  | .ok a, .ok b => .ok (a, b)
  | .ok _, .error e => .error e
  | .error d, .ok _ => .error d
  | .error d, .error e => .error (d ++ e)

/-- A named value of the raw ones, or the default where it is absent. -/
def field (raw : Json.Members) (name : String) (default : α) (read : Json → Checked α) :
    Checked α :=
  match Fields.get? (.whole name) raw with
  | some value => read value
  | none => .ok default

end Checked

namespace Reading

def text : Json → Except Issue String
  | .str s => .ok s
  | .text (.illFormed _) => .error .notUnicode
  | _ => .error .notText

def isSpace (c : Char) : Bool :=
  let n := c.toNat
  (9 ≤ n && n ≤ 13) || n = 0x20 || n = 0x85 || n = 0xa0 || n = 0x1680 ||
    (0x2000 ≤ n && n ≤ 0x200a) || n = 0x2028 || n = 0x2029 || n = 0x202f || n = 0x205f ||
    n = 0x3000

def trim (cs : List Char) : List Char :=
  ((cs.dropWhile isSpace).reverse.dropWhile isSpace).reverse

/-- A numeral that is too long is told from other unreadable texts only as long as nothing had to
be dropped in front of it. -/
def integerText (s : String) : Except Issue Int :=
  if Numeral.isTooLong s.toList then .error .tooManyDigits
  else
    match Numeral.integer? (trim s.toList) with
    | some n => .ok n
    | none => .error .unreadableInteger

/-- The least magnitude that an integer of 64 bits does not reach. -/
def wordBound : Nat := Nat.pow 2 63

/-- A floating point number is read as an integer if it is one of 64 bits. -/
def integerFloat : Binary64 → Except Issue Int
  | .finite negative mantissa exponent =>
      match (Binary64.finite negative mantissa exponent).toInt? with
      | some n => if n.natAbs < wordBound then .ok n else .error .tooManyDigits
      | none => .error .fractional
  | _ => .error .notFinite

def integer : Json → Except Issue Int
  | .int n => .ok n
  | .bool b => .ok (if b then 1 else 0)
  | .float x => integerFloat x
  | .str s => integerText s
  | .text (.illFormed _) => .error .notUnicode
  | _ => .error .notInteger

def integerFrom (least : Int) (value : Json) : Except Issue Int :=
  match integer value with
  | .ok n => if n < least then .error (.belowLeast least) else .ok n
  | .error issue => .error issue

def lowerAscii (s : String) : String :=
  s.map Char.toLower

def onWords : List String := ["1", "on", "t", "true", "y", "yes"]

def offWords : List String := ["0", "off", "f", "false", "n", "no"]

def flagText (s : String) : Except Issue Bool :=
  if lowerAscii s ∈ onWords then .ok true
  else if lowerAscii s ∈ offWords then .ok false
  else .error .unreadableFlag

/-- Only an integer of 64 bits is taken for an attempt at a flag. -/
def flagInteger (n : Int) : Except Issue Bool :=
  if n = 1 then .ok true
  else if n = 0 then .ok false
  else if -(wordBound : Int) ≤ n ∧ n < wordBound then .error .unreadableFlag
  else .error .notFlag

def flagFloat (x : Binary64) : Except Issue Bool :=
  match integerFloat x with
  | .ok n => flagInteger n
  | .error _ => .error .notFlag

def flag : Json → Except Issue Bool
  | .bool b => .ok b
  | .str s => flagText s
  | .int n => flagInteger n
  | .float x => flagFloat x
  | .text (.illFormed _) => .error .notUnicode
  | _ => .error .notFlag

end Reading

end Principal.Settings
