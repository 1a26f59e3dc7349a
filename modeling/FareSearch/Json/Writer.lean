import FareSearch.Json.Value

/-!
# Writing JSON text

The compact form, and the indented form with two spaces for each level. Strings escape the quote,
the backslash and the controls, and nothing else. In place of the unreadable stands null.
-/

namespace FareSearch.Json

def hexDigit (n : Nat) : Char :=
  Nat.digitChar n

def escapedChar (c : Char) : List Char :=
  if c == '"' then ['\\', '"']
  else if c == '\\' then ['\\', '\\']
  else if c == '\n' then ['\\', 'n']
  else if c == '\r' then ['\\', 'r']
  else if c == '\t' then ['\\', 't']
  else if c == '\x08' then ['\\', 'b']
  else if c == '\x0c' then ['\\', 'f']
  else if c.toNat < 0x20 then
    ['\\', 'u', '0', '0', hexDigit (c.toNat / 16), hexDigit (c.toNat % 16)]
  else [c]

def stringText (text : String) : String :=
  String.ofList ('"' :: (text.toList.flatMap escapedChar ++ ['"']))

def numberText : Number → String
  | .whole value => toString value
  | .double value => Number.shortestText value

mutual

/-- Compact text. -/
def compact : Json → String
  | .null => "null"
  | .unreadable => "null"
  | .bool true => "true"
  | .bool false => "false"
  | .number value => numberText value
  | .string value => stringText value
  | .array items => "[" ++ ",".intercalate (compactItems items) ++ "]"
  | .object members => "\x7b" ++ ",".intercalate (compactMembers members) ++ "\x7d"

def compactItems : List Json → List String
  | [] => []
  | item :: rest => compact item :: compactItems rest

def compactMembers : List (String × Json) → List String
  | [] => []
  | (name, value) :: rest => (stringText name ++ ":" ++ compact value) :: compactMembers rest

end

def lineBreak (level : Nat) : String :=
  String.ofList ('\n' :: List.replicate (2 * level) ' ')

/-- Parts on lines of their own, between brackets. -/
def block (opening closing : String) (level : Nat) (parts : List String) : String :=
  if parts.isEmpty then opening ++ closing
  else
    opening ++ lineBreak (level + 1) ++ ("," ++ lineBreak (level + 1)).intercalate parts ++
      lineBreak level ++ closing

mutual

/-- Indented text of a value that stands at a level. -/
def indented (level : Nat) : Json → String
  | .array items => block "[" "]" level (indentedItems (level + 1) items)
  | .object members => block "\x7b" "\x7d" level (indentedMembers (level + 1) members)
  | .null => "null"
  | .unreadable => "null"
  | .bool true => "true"
  | .bool false => "false"
  | .number value => numberText value
  | .string value => stringText value

def indentedItems (level : Nat) : List Json → List String
  | [] => []
  | item :: rest => indented level item :: indentedItems level rest

def indentedMembers (level : Nat) : List (String × Json) → List String
  | [] => []
  | (name, value) :: rest =>
    (stringText name ++ ": " ++ indented level value) :: indentedMembers level rest

end

end FareSearch.Json
