import FareSearch.Json.Record
import FareSearch.Number.RealReader

/-!
# Assignments to settings

What a settings file or an environment variable assigns, before it is known which kind of number
the setting is. Truth values count as 1 and 0, doubles are rounded and cut to 64 bits, and text
counts if it is the numeral of a number or a word for a truth value.
-/

namespace FareSearch

inductive SettingValue where
  | flag (value : Bool)
  | whole (value : Int)
  | real (value : Float)
  | text (value : String)
  | other

namespace SettingValue

/-- A value of a JSON file. -/
def ofJson : Json → SettingValue
  | .bool value => .flag value
  | .number (.whole value) => .whole value
  | .number (.double value) => .real value
  | .string value => .text value
  | _ => .other

/-- The value of an environment variable: a truth value, a whole number, a double, or text. -/
def ofVariable (value : String) : SettingValue :=
  let chars := value.toList
  let word := Text.lowercase value
  if word == "true" then .flag true
  else if word == "false" then .flag false
  else
    match (Number.signed? chars).bind Number.intWithin64 with
    | some value => .whole value
    | none =>
      match Number.real? chars with
      | some value => .real value
      | none => .text value

/-- The nearest 64-bit number to a double, a half away from zero. -/
def rounded (value : Float) : Nat :=
  value.round.toUInt64.toNat

/-- The number that a text stands for. -/
def numberOfText? (value : String) : Option Nat :=
  let word := Text.lowercase value
  if ["true", "on", "yes"].contains word then some 1
  else if ["false", "off", "no"].contains word then some 0
  else Number.unsigned? value.toList

/-- The number that a value stands for, up to a limit of at most 64 bits. -/
def nat? (limit : Nat) (value : SettingValue) : Option Nat :=
  let number? := match value with
    | flag value => some (if value then 1 else 0)
    | whole value => Number.natWithin Number.limit64 value
    | real value => some (rounded value)
    | text value => numberOfText? value
    | other => none
  number?.filter (· ≤ limit)

end SettingValue

/-- A path and the value that is assigned to it. -/
abbrev Assignment := String × SettingValue

namespace Assignment

/-- Characters of a name in a path. -/
def isNameChar (c : Char) : Bool :=
  Text.isAsciiLetter c || Number.isDigit c || c == '_' || c == '-'

/-- Blanks around the number in brackets. -/
def isGap (c : Char) : Bool :=
  c == ' ' || c == '\t'

/-- A number of 64 bits, with a minus sign or none, between blanks. -/
def isIndex (chars : List Char) : Bool :=
  let number := ((chars.dropWhile isGap).reverse.dropWhile isGap).reverse
  number.head? != some '+' && ((Number.signed? number).bind Number.intWithin64).isSome

/-- Whether a text goes on from a name into its parts: names after points, whole numbers in
brackets. -/
def isTail : Nat → List Char → Bool
  | _, [] => true
  | fuel + 1, '.' :: rest =>
    let name := rest.takeWhile isNameChar
    !name.isEmpty && isTail fuel (rest.drop name.length)
  | fuel + 1, '[' :: rest =>
    let inside := rest.takeWhile (· != ']')
    isIndex inside && rest.length > inside.length &&
      isTail fuel (rest.drop (inside.length + 1))
  | _, _ => false

/-- What an assignment says about a setting: nothing, its value, or that the setting has parts,
which no number has. -/
def valueFor? (name : String) (assignment : Assignment) : Option SettingValue :=
  let path := assignment.1.toList
  let head := path.takeWhile isNameChar
  let tail := path.drop head.length
  if head != name.toList || !isTail tail.length tail then none
  else if tail.isEmpty then some assignment.2
  else some .other

/-- The last value that is assigned to a setting. -/
def lastValue? (name : String) (assignments : List Assignment) : Option SettingValue :=
  assignments.reverse.findSome? (valueFor? name)

end Assignment

end FareSearch
