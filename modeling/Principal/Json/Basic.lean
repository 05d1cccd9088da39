import Principal.Fields
import Principal.Json.Text
import Principal.Number.Binary64

/-!
# JSON values

Values with integers of any size apart from binary floating point numbers, and objects whose
members keep their order. Overlaying one value on another merges objects member by member, the
upper value deciding wherever one of the two is no object.
-/

namespace Principal

inductive Json where
  | null
  | bool (value : Bool)
  | int (value : Int)
  | float (value : Binary64)
  | text (value : Json.Text)
  | arr (items : List Json)
  | obj (members : List (Json.Text × Json))
deriving Inhabited, Repr

namespace Json

abbrev Members := Fields Json Text

@[match_pattern] abbrev str (value : String) : Json :=
  text (.whole value)

/-- The object with the given fields as its members. -/
def ofFields (fields : Fields Json) : Json :=
  obj (fields.map fun (name, value) => (.whole name, value))

def ofOption : Option String → Json
  | some s => str s
  | none => null

def strings (items : List String) : Json :=
  arr (items.map str)

def isNull : Json → Bool
  | null => true
  | _ => false

def get? (key : String) : Json → Option Json
  | obj members => Fields.get? (.whole key) members
  | _ => none

mutual

def overlay (lower : Json) : Json → Json
  | obj members =>
      match lower with
      | obj under => obj (overlayMembers under members)
      | _ => obj members
  | upper => upper

def overlayMembers (under : List (Text × Json)) : List (Text × Json) → List (Text × Json)
  | [] => under
  | (key, value) :: rest =>
      match Fields.get? key under with
      | some lower => overlayMembers (Fields.put key (overlay lower value) under) rest
      | none => overlayMembers (Fields.put key value under) rest

end

end Json

end Principal
