import FareSearch.Number.RealReader
import FareSearch.Json.Reader
import FareSearch.Settings.Assignment

/-!
# Nodes of YAML

A node is a scalar, a list or a table. The word of a scalar without quotes tells what it is:
nothing, a truth value, a whole number of 64 bits, a real number, or text.
-/

namespace FareSearch.Yaml

inductive Node where
  | null
  | flag (value : Bool)
  | whole (value : Int)
  | real (word : String)
  | text (value : String)
  | list (items : List Node)
  | table (entries : List (Node × Node))
  deriving BEq, Inhabited

namespace Node

/-- A whole number of 64 bits in a base, with a sign or none. -/
def inBase? (base : Nat) (chars : List Char) : Option Int := do
  let (negative, digits) := match chars with
    | '-' :: rest => (true, rest)
    | '+' :: rest => (false, rest)
    | _ => (false, chars)
  let values ← digits.mapM fun c ↦ (Json.hexValue? c).filter (· < base)
  if values.isEmpty then none
  else
    let value := values.foldl (fun value digit ↦ value * base + digit) 0
    Number.intWithin64 (if negative then -(Int.ofNat value) else value)

/-- The whole number that a word stands for. -/
def wholeOf? (word : List Char) : Option Int :=
  let marked? := match word with
    | '0' :: 'x' :: digits => inBase? 16 digits
    | '0' :: 'o' :: digits => inBase? 8 digits
    | '+' :: digits => inBase? 10 digits
    | _ => none
  marked?.or (inBase? 10 word)

def specialReals : List String :=
  [".inf", ".Inf", ".INF", "+.inf", "+.Inf", "+.INF", "-.inf", "-.Inf", "-.INF", ".nan", ".NaN",
   ".NAN"]

def isReal (word : List Char) : Bool :=
  specialReals.contains (String.ofList word) ||
    (word.any Number.isDigit && (Number.real? word).isSome)

/-- The scalar of a word without quotes. -/
def ofWord (word : List Char) : Node :=
  let text := String.ofList word
  if ["", "~", "null"].contains text then null
  else if ["true", "True", "TRUE"].contains text then flag true
  else if ["false", "False", "FALSE"].contains text then flag false
  else
    match wholeOf? word with
    | some value => whole value
    | none => if isReal word then real text else .text text

/-- The scalar of a word under a tag that names a type. A word of another type is nothing. -/
def ofTagged (type : String) (word : List Char) : Node :=
  let value := String.ofList word
  match type with
  | "bool" => if value == "true" then flag true else if value == "false" then flag false else null
  | "int" => ((inBase? 10 word).map whole).getD null
  | "float" => if isReal word then real value else null
  | "null" => null
  | _ => text value

/-- The name that a scalar gives to an entry of a table. -/
def name? : Node → Option String
  | flag value => some (if value then "true" else "false")
  | whole value => some (toString value)
  | real word => some word
  | text value => some value
  | _ => none

mutual

/-- Whether the real numbers of a node are written as such, and the keys of its tables are names. -/
def isUsable : Node → Bool
  | real word => (Number.real? word.toList).isSome
  | list items => allUsable items
  | table entries => allEntriesUsable entries
  | _ => true

def allUsable : List Node → Bool
  | [] => true
  | item :: rest => isUsable item && allUsable rest

def allEntriesUsable : List (Node × Node) → Bool
  | [] => true
  | (key, value) :: rest => (name? key).isSome && isUsable value && allEntriesUsable rest

end

def toSetting : Node → SettingValue
  | flag value => .flag value
  | whole value => .whole value
  | real word => ((Number.real? word.toList).map .real).getD .other
  | text value => .text value
  | _ => .other

/-- The assignments of a table. -/
def assignments? : Node → Option (List Assignment)
  | table entries =>
    if allEntriesUsable entries then
      some (entries.filterMap fun (key, value) ↦ (name? key).map (·, value.toSetting))
    else none
  | _ => none

def distinctKeys : List (Node × Node) → Bool
  | [] => true
  | (key, _) :: rest => !rest.any (·.1 == key) && distinctKeys rest

/-- A table, each of whose keys has to be given once. -/
def tableOf? (entries : List (Node × Node)) : Option Node :=
  if distinctKeys entries then some (table entries) else none

end Node

end FareSearch.Yaml
