import FareSearch.Json.Value
import FareSearch.Number.Reader

/-!
# Reading records

A record is written as an object of named fields, in which unknown names are passed over and a
known name may stand once, or as an array of its fields in the order of their declaration.
-/

namespace FareSearch.Json

open FareSearch.Number

/-- What a record says about one of its fields. -/
inductive Entry where
  | given (value : Json)
  | missing
  | cutOff
  deriving Inhabited

/-- The entries of a record for its declared fields, in order. -/
def entries? (names : List String) : Json → Option (List Entry)
  | .object members =>
    names.mapM fun name ↦
      match members.filter (·.1 == name) with
      | [] => some .missing
      | [(_, value)] => some (.given value)
      | _ => none
  | .array items =>
    if items.length > names.length then none
    else some (items.map .given ++ List.replicate (names.length - items.length) .cutOff)
  | _ => none

/-- A reader of values of one type. -/
abbrev Reader (α : Type) := Json → Option α

def Entry.required {α : Type} (reader : Reader α) : Entry → Option α
  | .given value => reader value
  | _ => none

/-- A value that may be null, or missing from an object. -/
def Entry.optional {α : Type} (reader : Reader α) : Entry → Option (Option α)
  | .given .null => some none
  | .given value => (reader value).map some
  | .missing => some none
  | .cutOff => none

/-- A value that may be null or missing in both forms of a record. -/
def Entry.optionalAnywhere {α : Type} (reader : Reader α) : Entry → Option (Option α)
  | .cutOff => some none
  | entry => entry.optional reader

/-- A value that has a default where the record says nothing. -/
def Entry.withDefault {α : Type} (reader : Reader α) (default : α) : Entry → Option α
  | .given value => reader value
  | _ => some default

def text? : Reader String
  | .string value => some value
  | _ => none

def whole? : Reader Int
  | .number (.whole value) => some value
  | _ => none

def natUpTo? (limit : Nat) : Reader Nat :=
  fun json ↦ (whole? json).bind (natWithin limit)

def nat32? : Reader Nat :=
  natUpTo? limit32

def nat64? : Reader Nat :=
  natUpTo? limit64

def int64? : Reader Int :=
  fun json ↦ (whole? json).bind intWithin64

def double? : Reader Float
  | .number (.whole value) => some (ofInt value)
  | .number (.double value) => some value
  | _ => none

def bool? : Reader Bool
  | .bool value => some value
  | _ => none

def list? {α : Type} (reader : Reader α) : Reader (List α)
  | .array items => items.mapM reader
  | _ => none

/-- One of several names, written as a string or as an object that gives the name null. -/
def choice? {α : Type} (choices : List (String × α)) : Reader α
  | .string name => (choices.find? (·.1 == name)).map (·.2)
  | .object [(name, .null)] => (choices.find? (·.1 == name)).map (·.2)
  | _ => none

end FareSearch.Json
