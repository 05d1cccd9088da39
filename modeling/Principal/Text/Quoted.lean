import Principal.Text.Hex
import Principal.Text.Printable

/-!
# Quoted text

The form in which messages show a text: between quotes, with the quote in use, the backslash
and every character that is not printable escaped. The quote is the single one unless the text
holds a single quote and no double one, so most texts need no escaped quote.
-/

namespace Principal

namespace Quoted

def quoteMark (cs : List Char) : Char :=
  if '\'' ∈ cs ∧ '"' ∉ cs then '"' else '\''

/-- An escape of the shortest width that holds the character. -/
def numbered (n : Nat) : List Char :=
  if n ≤ 0xff then '\\' :: 'x' :: hexDigits 2 n
  else if n ≤ 0xffff then '\\' :: 'u' :: hexDigits 4 n
  else '\\' :: 'U' :: hexDigits 8 n

def escape (mark c : Char) : List Char :=
  if c = mark ∨ c = '\\' then ['\\', c]
  else if c = '\n' then ['\\', 'n']
  else if c = '\r' then ['\\', 'r']
  else if c = '\t' then ['\\', 't']
  else if isPrintable c then [c]
  else numbered c.toNat

end Quoted

open Quoted in
def quoted (s : String) : String :=
  let mark := quoteMark s.toList
  String.ofList (mark :: s.toList.flatMap (escape mark) ++ [mark])

/-- An absent text is shown as a bare word. -/
def quotedOption : Option String → String
  | some s => quoted s
  | none => "None"

end Principal
