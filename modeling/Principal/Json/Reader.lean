import Principal.Json.Token

/-!
# Reading JSON

Tokens build a value on a stack of the arrays and objects that are still open, as soon as they are
complete. A member that repeats a name replaces the value given before. A text is read if and only
if its tokens leave one complete value and no array or object stands too deep in others; the fault
that comes first in the text counts.
-/

namespace Principal.Json

/-- Why a text is not read. -/
inductive Fault where
  | malformed
  | deepArray
  | deepObject
deriving DecidableEq, Repr

/-- An array or object still open, its items in reverse. -/
inductive Frame where
  | items (read : List Json)
  | members (read : Members)
  | member (read : Members) (key : Text)

/-- What may come next. -/
inductive Expect where
  | value
  | firstItem
  | firstMember
  | nextKey
  | colon (key : Text)
  | separator
  | done (value : Json)

structure Building where
  stack : List Frame
  expect : Expect

namespace Building

/-- The number of arrays and objects that may be open at once. -/
def deepest : Nat := 980

/-- A value is complete and goes into the innermost open array or object. -/
def supply (stack : List Frame) (value : Json) : Except Fault Building :=
  match stack with
  | [] => .ok ⟨[], .done value⟩
  | .items read :: stack => .ok ⟨.items (value :: read) :: stack, .separator⟩
  | .member read key :: stack => .ok ⟨.members (Fields.put key value read) :: stack, .separator⟩
  | .members _ :: _ => .error .malformed

def beginArray (stack : List Frame) : Except Fault Building :=
  if stack.length < deepest then .ok ⟨.items [] :: stack, .firstItem⟩ else .error .deepArray

def beginObject (stack : List Frame) : Except Fault Building :=
  if stack.length < deepest then .ok ⟨.members [] :: stack, .firstMember⟩ else .error .deepObject

def beginValue (stack : List Frame) : Token → Except Fault Building
  | .beginArray => beginArray stack
  | .beginObject => beginObject stack
  | .text t => supply stack (.text t)
  | .scalar value => supply stack value
  | _ => .error .malformed

def close : List Frame → Except Fault Building
  | .items read :: stack => supply stack (.arr read.reverse)
  | .members read :: stack => supply stack (.obj read)
  | _ => .error .malformed

def step (b : Building) (token : Token) : Except Fault Building :=
  match b.expect, token with
  | .value, token => beginValue b.stack token
  | .firstItem, .endArray => close b.stack
  | .firstItem, token => beginValue b.stack token
  | .firstMember, .endObject => close b.stack
  | .firstMember, .text key => .ok ⟨b.stack, .colon key⟩
  | .nextKey, .text key => .ok ⟨b.stack, .colon key⟩
  | .colon key, .colon =>
      match b.stack with
      | .members read :: stack => .ok ⟨.member read key :: stack, .value⟩
      | _ => .error .malformed
  | .separator, .comma =>
      match b.stack with
      | .items _ :: _ => .ok ⟨b.stack, .value⟩
      | .members _ :: _ => .ok ⟨b.stack, .nextKey⟩
      | _ => .error .malformed
  | .separator, .endArray =>
      match b.stack with
      | .items _ :: _ => close b.stack
      | _ => .error .malformed
  | .separator, .endObject =>
      match b.stack with
      | .members _ :: _ => close b.stack
      | _ => .error .malformed
  | _, _ => .error .malformed

end Building

/-- A text read up to some character. -/
structure Reader where
  pending : Token.Pending := .nothing
  building : Building := ⟨[], .value⟩

namespace Reader

def step (r : Reader) (c : Char) : Except Fault Reader :=
  match Token.step r.pending c with
  | none => .error .malformed
  | some (tokens, pending) =>
      (tokens.foldlM Building.step r.building).map fun building => ⟨pending, building⟩

def finish (r : Reader) : Except Fault Json :=
  match Token.finish r.pending with
  | none => .error .malformed
  | some tokens =>
      match tokens.foldlM Building.step r.building with
      | .ok ⟨[], .done value⟩ => .ok value
      | .ok _ => .error .malformed
      | .error fault => .error fault

end Reader

def read (s : String) : Except Fault Json :=
  match s.toList.foldlM Reader.step {} with
  | .ok r => r.finish
  | .error fault => .error fault

end Principal.Json
