import FareSearch.Text.HiddenTable

/-!
# Quoted text

Text between double quotes, as error messages show it: the quote, the backslash and four controls
have short escapes, a character that is not shown as itself is written by its number in braces.
-/

namespace FareSearch.Text

def isHidden (c : Char) : Bool :=
  inRanges hiddenRanges c.toNat

/-- Braces around the hexadecimal number of a character. -/
def escapedByNumber (c : Char) : List Char :=
  '\\' :: 'u' :: '\x7b' :: (Nat.toDigits 16 c.toNat ++ ['\x7d'])

def escapedChar (c : Char) : List Char :=
  if c == '\x00' then ['\\', '0']
  else if c == '\t' then ['\\', 't']
  else if c == '\r' then ['\\', 'r']
  else if c == '\n' then ['\\', 'n']
  else if c == '"' || c == '\\' then ['\\', c]
  else if isHidden c then escapedByNumber c
  else [c]

/-- A text in double quotes with its escapes. -/
def quoted (text : String) : String :=
  String.ofList ('"' :: (text.toList.flatMap escapedChar ++ ['"']))

end FareSearch.Text
