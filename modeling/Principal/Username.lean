import Principal.Text.Occurrence

/-!
# Usernames

A username may carry the domain of its user store in front (`SECONDARY/alice`) and the domain of
its tenant behind (`alice@acme.com`). The functions here put the store domain on, take either
domain off, and mask a name for a log. Lengths and positions count characters.
-/

namespace Principal

/-- A text that is present and not empty. -/
def nonempty? (s : Option String) : Option String :=
  s.filter (· ≠ "")

namespace Username

open Occurrence

def defaultDomainSeparator : String := "/"

def defaultTenantSeparator : String := "@"

/-- Puts the store domain in front, unless there is none or the separator already occurs. -/
def qualify (name : String) (storeDomain : Option String)
    (separator : String := defaultDomainSeparator) : String :=
  match nonempty? storeDomain with
  | none => name
  | some domain =>
      if occurs separator.toList name.toList then name else domain ++ separator ++ name

/-- Takes off what stands before the first separator; a name that starts with it is left. -/
def withoutDomain (name : String) (separator : String := defaultDomainSeparator) : String :=
  match cutFirst? separator.toList name.toList with
  | some (_ :: _, after) => String.ofList after
  | _ => name

/-- Takes off the last separator and what follows it. Where usernames may be mail addresses, one
separator belongs to the address and only a second one introduces a tenant. -/
def withoutTenant (name : String) (separator : String := defaultTenantSeparator)
    (mailAddresses : Bool := false) : String :=
  let own := if mailAddresses then 1 else 0
  if count separator.toList name.toList ≤ own then name
  else
    match cutLast? separator.toList name.toList with
    | some (before, _) => String.ofList before
    | none => name

/-- Hides all but the first and the last character of a name of more than two. -/
def maskChars : List Char → List Char
  | first :: second :: third :: rest =>
      first :: List.replicate (rest.length + 1) '*' ++
        [(second :: third :: rest).getLast (List.cons_ne_nil _ _)]
  | cs => cs

def mask (name : String) : String :=
  String.ofList (maskChars name.toList)

@[simp] theorem toList_mask (name : String) : (mask name).toList = maskChars name.toList := by
  simp [mask]

theorem length_maskChars (cs : List Char) : (maskChars cs).length = cs.length := by
  match cs with
  | [] | [_] | [_, _] => rfl
  | _ :: _ :: _ :: _ => simp [maskChars]

end Username

end Principal
