import Principal.Json.Basic
import Principal.Number.Shortest
import Principal.Text.Hex

/-!
# Writing JSON

A value is written in ASCII, other characters as escapes of their two-byte units, halves of
surrogate pairs included, and numbers
with a fraction by their shortest decimal. The indented layout gives every item and member a
line of its own; the compact one has no blanks.
-/

namespace Principal.Json

def unicodeEscape (n : Nat) : List Char :=
  '\\' :: 'u' :: hexDigits 4 n

/-- A character outside the basic plane is written as its two halves. -/
def escapeChar (c : Char) : List Char :=
  match c with
  | '"' => ['\\', '"']
  | '\\' => ['\\', '\\']
  | '\n' => ['\\', 'n']
  | '\r' => ['\\', 'r']
  | '\t' => ['\\', 't']
  | '\x08' => ['\\', 'b']
  | '\x0c' => ['\\', 'f']
  | c =>
      if ' ' ≤ c ∧ c ≤ '~' then [c]
      else if c.toNat < 0x10000 then unicodeEscape c.toNat
      else
        let n := c.toNat - 0x10000
        unicodeEscape (0xd800 + n / 0x400) ++ unicodeEscape (0xdc00 + n % 0x400)

def escapePoint (point : Nat) : List Char :=
  if Text.isHalf point then unicodeEscape point else escapeChar (Char.ofNat point)

def escapeText : Text → List Char
  | .whole value => value.toList.flatMap escapeChar
  | .illFormed points => points.flatMap escapePoint

def writeText (t : Text) : String :=
  String.ofList ('"' :: escapeText t ++ ['"'])

def writeFloat : Binary64 → String
  | .nan => "NaN"
  | .infinite negative => if negative then "-Infinity" else "Infinity"
  | x => x.text

/-- The separators of a layout at a depth of nesting. -/
structure Layout where
  line : Nat → String
  comma : String
  colon : String

namespace Layout

def compact : Layout where
  line _ := ""
  comma := ","
  colon := ":"

def indented : Layout where
  line depth := "\n" ++ String.ofList (List.replicate (2 * depth) ' ')
  comma := ","
  colon := ": "

end Layout

variable (layout : Layout)

/-- Encloses written items, each on a line of its own where the layout has lines. -/
def enclose (depth : Nat) (left right : String) (items : List String) : String :=
  if items.isEmpty then left ++ right
  else
    left ++ layout.line (depth + 1) ++
      (layout.comma ++ layout.line (depth + 1)).intercalate items ++ layout.line depth ++ right

mutual

def writeAt (depth : Nat) : Json → String
  | null => "null"
  | bool value => if value then "true" else "false"
  | int value => toString value
  | float value => writeFloat value
  | text value => writeText value
  | arr items => enclose layout depth "[" "]" (writeItems (depth + 1) items)
  | obj members => enclose layout depth "\x7b" "\x7d" (writeMembers (depth + 1) members)

def writeItems (depth : Nat) : List Json → List String
  | [] => []
  | item :: rest => writeAt depth item :: writeItems depth rest

def writeMembers (depth : Nat) : List (Text × Json) → List String
  | [] => []
  | (key, value) :: rest =>
      (writeText key ++ layout.colon ++ writeAt depth value) :: writeMembers depth rest

end

def write (value : Json) : String :=
  writeAt layout 0 value

end Principal.Json
