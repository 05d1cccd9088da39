import Principal.Json.Basic
import Principal.Number.Digits
import Principal.Text.Hex

/-!
# JSON tokens

The lexical level of JSON as a machine that reads one character at a time and gives the tokens
that the character completes. Numbers, words and texts become tokens only when they are complete,
and the two halves of a character outside the basic plane are joined when its text ends.
-/

namespace Principal.Json

inductive Token where
  | beginArray
  | endArray
  | beginObject
  | endObject
  | colon
  | comma
  | text (value : Text)
  | scalar (value : Json)

namespace Token

/-- What the machine has read of a token that is not complete. Characters are kept in reverse,
those of a text by their numbers, so that half a character can stand among them. -/
inductive Pending where
  | nothing
  | bare (read : List Char)
  | text (read : List Nat)
  | escape (read : List Nat)
  | unicode (read : List Nat) (digits value : Nat)

/-- The digits of an exponent with its sign. -/
def exponent? : List Char → Option Int
  | [] => some 0
  | c :: cs =>
      if c = 'e' ∨ c = 'E' then
        let (negative, ds) :=
          match cs with
          | '-' :: ds => (true, ds)
          | '+' :: ds => (false, ds)
          | ds => (false, ds)
        if ds.isEmpty ∨ !ds.all isDigit then none
        else some (if negative then -(digitsValue ds : Int) else digitsValue ds)
      else none

/-- A number without its sign. The integer part starts with a zero only if that is all of it. -/
def number? (negative : Bool) (cs : List Char) : Option Json :=
  let whole := cs.takeWhile isDigit
  let rest := cs.dropWhile isDigit
  if whole.isEmpty ∨ (whole.head? = some '0' ∧ whole ≠ ['0']) then none
  else
    match rest with
    | [] =>
        if longestInteger < whole.length then none
        else some (.int (if negative then -(digitsValue whole : Int) else digitsValue whole))
    | '.' :: rest =>
        let places := rest.takeWhile isDigit
        if places.isEmpty then none
        else
          (exponent? (rest.dropWhile isDigit)).map fun e =>
            .float (.ofDecimal negative (digitsValue (whole ++ places)) (e - places.length))
    | rest =>
        (exponent? rest).map fun e => .float (.ofDecimal negative (digitsValue whole) e)

/-- The value of a word or number. -/
def bare? (cs : List Char) : Option Json :=
  if cs = "true".toList then some (.bool true)
  else if cs = "false".toList then some (.bool false)
  else if cs = "null".toList then some .null
  else if cs = "NaN".toList then some (.float .nan)
  else if cs = "Infinity".toList then some (.float (.infinite false))
  else if cs = "-Infinity".toList then some (.float (.infinite true))
  else
    match cs with
    | '-' :: cs => number? true cs
    | cs => number? false cs

def isBare (c : Char) : Bool :=
  isDigit c || ('a' ≤ c && c ≤ 'z') || ('A' ≤ c && c ≤ 'Z') || c = '-' || c = '+' || c = '.'

def isBlank (c : Char) : Bool :=
  c = ' ' || c = '\t' || c = '\n' || c = '\r'

/-- A character between two tokens. -/
def start (c : Char) : Option (List Token × Pending) :=
  if isBlank c then some ([], .nothing)
  else if isBare c then some ([], .bare [c])
  else
    match c with
    | '"' => some ([], .text [])
    | '[' => some ([beginArray], .nothing)
    | ']' => some ([endArray], .nothing)
    | '\x7b' => some ([beginObject], .nothing)
    | '\x7d' => some ([endObject], .nothing)
    | ':' => some ([colon], .nothing)
    | ',' => some ([comma], .nothing)
    | _ => none

def escaped? (c : Char) : Option Nat :=
  match c with
  | '"' => some 0x22
  | '\\' => some 0x5c
  | '/' => some 0x2f
  | 'b' => some 8
  | 'f' => some 12
  | 'n' => some 10
  | 'r' => some 13
  | 't' => some 9
  | _ => none

/-- The tokens that a character completes, and what is pending after it. -/
def step (pending : Pending) (c : Char) : Option (List Token × Pending) :=
  match pending with
  | .nothing => start c
  | .bare read =>
      if isBare c then some ([], .bare (c :: read))
      else
        match bare? read.reverse, start c with
        | some value, some (tokens, pending) => some (scalar value :: tokens, pending)
        | _, _ => none
  | .text read =>
      if c = '"' then some ([text (.ofPoints read.reverse)], .nothing)
      else if c = '\\' then some ([], .escape read)
      else if c.toNat < 32 then none
      else some ([], .text (c.toNat :: read))
  | .escape read =>
      if c = 'u' then some ([], .unicode read 0 0)
      else (escaped? c).map fun n => ([], .text (n :: read))
  | .unicode read digits value =>
      (hexValue? c).map fun n =>
        let value := 16 * value + n
        if digits = 3 then ([], .text (value :: read))
        else ([], .unicode read (digits + 1) value)

/-- The tokens that the end of a text completes. -/
def finish : Pending → Option (List Token)
  | .nothing => some []
  | .bare read => (bare? read.reverse).map fun value => [scalar value]
  | _ => none

end Token

end Principal.Json
