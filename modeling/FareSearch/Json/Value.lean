import FareSearch.Number.Shortest

/-!
# JSON values

A number is a whole number that fits 64 bits, or a double. Objects keep their members in the order
in which they were written, repeated names included. What is well formed and yet stands for no
value has a constructor of its own, so that a reader which passes over it is not disturbed.
-/

namespace FareSearch

inductive Json.Number where
  | whole (value : Int)
  | double (value : Float)
  deriving Inhabited

/-- A value. Unreadable are a number that no double holds, a string with half a surrogate pair, and
an object with such a string for a name. -/
inductive Json where
  | null
  | bool (value : Bool)
  | number (value : Json.Number)
  | string (value : String)
  | array (items : List Json)
  | object (members : List (String × Json))
  | unreadable
  deriving Inhabited

namespace Json

def whole (value : Int) : Json :=
  .number (.whole value)

def nat (value : Nat) : Json :=
  .whole value

def strings (values : List String) : Json :=
  .array (values.map .string)

/-- Null where there is no value. -/
def ofOption {α : Type} (toJson : α → Json) : Option α → Json
  | none => .null
  | some value => toJson value

/-- The last member of a name counts. -/
def get? (json : Json) (name : String) : Option Json :=
  match json with
  | .object members => (members.reverse.find? fun member ↦ member.1 == name).map (·.2)
  | _ => none

/-- Puts a member at the end, or in place of the one that has its name. -/
def insert (members : List (String × Json)) (name : String) (value : Json) :
    List (String × Json) :=
  if members.any (·.1 == name) then
    members.map fun member ↦ if member.1 == name then (name, value) else member
  else members ++ [(name, value)]

mutual

/-- The same value with every name once in each object: the last one written counts. -/
def collapse : Json → Json
  | .array items => .array (collapseItems items)
  | .object members => .object (collapseMembers [] members)
  | json => json

def collapseItems : List Json → List Json
  | [] => []
  | item :: rest => collapse item :: collapseItems rest

def collapseMembers (seen : List (String × Json)) : List (String × Json) → List (String × Json)
  | [] => seen
  | (name, value) :: rest => collapseMembers (insert seen name (collapse value)) rest

end

mutual

/-- Whether nothing in a value is unreadable. -/
def isReadable : Json → Bool
  | .unreadable => false
  | .array items => allReadable items
  | .object members => allMembersReadable members
  | _ => true

def allReadable : List Json → Bool
  | [] => true
  | item :: rest => isReadable item && allReadable rest

def allMembersReadable : List (String × Json) → Bool
  | [] => true
  | (_, value) :: rest => isReadable value && allMembersReadable rest

end

end Json

end FareSearch
