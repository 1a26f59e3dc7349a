import FareSearch.Json.Reader
import FareSearch.Number.RealReader
import FareSearch.Settings.Assignment
import FareSearch.Text.AlphanumericTable
import FareSearch.Text.Series

/-!
# RON files

Object notation with structures in parentheses, maps in braces, lists, options and units. At its
top a file holds a structure with named fields, or a map. The keys of all maps are strings or
characters.
-/

namespace FareSearch.Ron

open FareSearch.Number FareSearch.Text

/-- White space between the parts of a file. -/
def isIdle (c : Char) : Bool :=
  (9 ≤ c.toNat && c.toNat ≤ 13) || c == ' ' || c == '\x85' || c == '\u200E' || c == '\u200F' ||
    c == '\u2028' || c == '\u2029'

/-- The text after a comment between marks, which may hold others; `depth` counts those that are
open. -/
def afterComment? : Nat → List Char → Option (List Char)
  | 0, chars => some chars
  | _ + 1, [] => none
  | depth + 1, '*' :: '/' :: rest => afterComment? depth rest
  | depth + 1, '/' :: '*' :: rest => afterComment? (depth + 2) rest
  | depth + 1, _ :: rest => afterComment? (depth + 1) rest
termination_by _ chars => chars.length

/-- The text after white space and comments. -/
def skipIdle : Nat → List Char → List Char
  | 0, chars => chars
  | fuel + 1, chars =>
    match chars with
    | '/' :: '/' :: rest => skipIdle fuel (rest.dropWhile (· != '\n'))
    | '/' :: '*' :: rest =>
      match afterComment? 1 rest with
      | some rest => skipIdle fuel rest
      | none => chars
    | c :: rest => if isIdle c then skipIdle fuel rest else chars
    | [] => []

def skip (chars : List Char) : List Char :=
  skipIdle (chars.length + 1) chars

/-- A character by its number in hexadecimal digits. -/
def pointOf? (digits : List Char) : Option Char := do
  let values ← digits.mapM Json.hexValue?
  let point := values.foldl (fun value digit ↦ value * 16 + digit) 0
  if digits.isEmpty || digits.length > 6 || (Char.ofNat point).toNat ≠ point then none
  else some (Char.ofNat point)

/-- The character of an escape after its backslash. -/
def escaped? : List Char → Option (Char × List Char)
  | '\'' :: rest => some ('\'', rest)
  | '"' :: rest => some ('"', rest)
  | '\\' :: rest => some ('\\', rest)
  | 'n' :: rest => some ('\n', rest)
  | 'r' :: rest => some ('\r', rest)
  | 't' :: rest => some ('\t', rest)
  | '0' :: rest => some ('\x00', rest)
  | 'x' :: high :: low :: rest => (pointOf? [high, low]).map fun c ↦ (c, rest)
  | 'u' :: '\x7b' :: rest =>
    let digits := rest.takeWhile (· != '\x7d')
    (pointOf? digits).map fun c ↦ (c, rest.drop (digits.length + 1))
  | _ => none

/-- The rest of a string or of a character in quotes. -/
def readString (quote : Char) (read : List Char) : Nat → List Char → Option (String × List Char)
  | 0, _ => none
  | _ + 1, [] => none
  | fuel + 1, c :: rest =>
    if c == quote then some (String.ofList read.reverse, rest)
    else if c == '\\' then
      match escaped? rest with
      | some (char, rest) => readString quote (char :: read) fuel rest
      | none => none
    else readString quote (c :: read) fuel rest

/-- The rest of a string without escapes, which a quote and so many number signs end. -/
def readRaw (signs : Nat) (read : List Char) : List Char → Option (String × List Char)
  | [] => none
  | c :: rest =>
    if c == '"' && (rest.take signs).length = signs && (rest.take signs).all (· == '#') then
      some (String.ofList read.reverse, rest.drop signs)
    else readRaw signs (c :: read) rest

/-- A string or a character. -/
def readText (chars : List Char) : Option (String × List Char) :=
  match chars with
  | '"' :: rest => readString '"' [] (rest.length + 1) rest
  | '\'' :: rest =>
    (readString '\'' [] (rest.length + 1) rest).filter fun (text, _) ↦ text.length = 1
  | 'r' :: rest =>
    let signs := rest.takeWhile (· == '#')
    match rest.drop signs.length with
    | '"' :: rest => readRaw signs.length [] rest
    | _ => none
  | _ => none

/-- Marks of the width of a number. -/
def widths : List String :=
  ["i8", "i16", "i32", "i64", "u8", "u16", "u32", "u64"]

/-- A number without the mark of its width. -/
def withoutWidth (chars : List Char) (marks : List String) : List Char :=
  match marks.find? fun mark ↦ mark.toList.isSuffixOf chars with
  | some mark => chars.take (chars.length - mark.length)
  | none => chars

/-- A whole number in a base. Underscores may stand after its first digit. -/
def inBase? (base : Nat) (chars : List Char) : Option Nat := do
  let digits := chars.filter (· != '_')
  let values ← digits.mapM fun c ↦ (Json.hexValue? c).filter (· < base)
  if values.isEmpty || chars.head? == some '_' then none
  else some (values.foldl (fun value digit ↦ value * base + digit) 0)

/-- A whole number without its sign. -/
def whole? (chars : List Char) : Option Nat :=
  match withoutWidth chars widths with
  | '0' :: 'x' :: digits => inBase? 16 digits
  | '0' :: 'o' :: digits => inBase? 8 digits
  | '0' :: 'b' :: digits => inBase? 2 digits
  | digits => inBase? 10 digits

/-- The value of a number: one of 64 bits, or a double. -/
def numberOf? (word : List Char) : Option SettingValue :=
  let (negative, chars) := match word with
    | '-' :: rest => (true, rest)
    | '+' :: rest => (false, rest)
    | _ => (false, word)
  match whole? chars with
  | some value =>
    if negative then (intWithin64 (-(Int.ofNat value))).map .whole
    else (natWithin limit64 value).map fun value ↦ .whole value
  | none =>
    let digits := (withoutWidth chars ["f32", "f64"]).filter (· != '_')
    if digits == "inf".toList || digits == "NaN".toList || digits.head?.any isDigit ||
        digits.head? == some '.' then
      (real? digits).map fun value ↦ .real (if negative then -value else value)
    else none

def isNameChar (c : Char) : Bool :=
  isAlphanumeric c || c == '_'

def isNumberChar (c : Char) : Bool :=
  isAsciiLetter c || isDigit c || c == '_' || c == '+' || c == '-' || c == '.'

/-- What a file says about a setting, and the named values inside where it is a table. -/
structure Reading where
  value : SettingValue
  fields? : Option (List Assignment) := none

/-- A field of a structure, named or not, given how values are read. -/
def readField (value : List Char → Option (Reading × List Char)) (chars : List Char) :
    Option ((Option String × SettingValue) × List Char) := do
  let name := chars.takeWhile isNameChar
  match skip (chars.drop name.length) with
  | ':' :: rest =>
    if name.isEmpty || name.head?.any isDigit then none
    else
      let (reading, rest) ← value (skip rest)
      return ((some (String.ofList name), reading.value), rest)
  | _ =>
    let (reading, rest) ← value chars
    return ((none, reading.value), rest)

/-- An entry of a map. -/
def readEntry (value : List Char → Option (Reading × List Char)) (chars : List Char) :
    Option (Assignment × List Char) := do
  let (key, rest) ← readText chars
  match skip rest with
  | ':' :: rest => do
    let (reading, rest) ← value (skip rest)
    return ((key, reading.value), rest)
  | _ => none

/-- A structure of fields that are all named, or a tuple of values without names. -/
def ofFields? (fields : List (Option String × SettingValue)) : Option Reading :=
  match fields.mapM fun (name, value) ↦ name.map (·, value) with
  | some assignments =>
    some ⟨.other, if assignments.isEmpty then none else some assignments⟩
  | none => if fields.all (·.1.isNone) then some ⟨.other, none⟩ else none

/-- A structure or tuple after its opening parenthesis, given how values are read. -/
def readStructure (value : List Char → Option (Reading × List Char)) (chars : List Char) :
    Option (Reading × List Char) := do
  let (fields, rest) ← readSeries skip (readField value) ')' (chars.length + 1) chars
  return (← ofFields? fields, rest)

/-- The value of an option after its opening parenthesis. -/
def readOption (value : List Char → Option (Reading × List Char)) (chars : List Char) :
    Option (Reading × List Char) := do
  let (values, rest) ← readSeries skip value ')' (chars.length + 1) chars
  match values with
  | [reading] => return (reading, rest)
  | _ => none

/-- A value that begins with a name: a truth value, an option, a structure or a name alone. -/
def readNamed (value : List Char → Option (Reading × List Char)) (chars : List Char) :
    Option (Reading × List Char) :=
  let name := chars.takeWhile isNameChar
  let rest := chars.drop name.length
  if name.isEmpty then none
  else if name == "true".toList then some (⟨.flag true, none⟩, rest)
  else if name == "false".toList then some (⟨.flag false, none⟩, rest)
  else
    match skip rest with
    | '(' :: inside =>
      if name == "Some".toList then readOption value inside else readStructure value inside
    | _ => some (⟨.other, none⟩, rest)

/-- A value that nests at most so deep. -/
def readValue : Nat → List Char → Option (Reading × List Char)
  | 0, _ => none
  | depth + 1, chars =>
    match chars with
    | '(' :: rest => readStructure (readValue depth) rest
    | '[' :: rest =>
      (readSeries skip (readValue depth) ']' (rest.length + 1) rest).map fun (_, rest) ↦
        (⟨.other, none⟩, rest)
    | '\x7b' :: rest =>
      (readSeries skip (readEntry (readValue depth)) '\x7d' (rest.length + 1) rest).map
        fun (entries, rest) ↦ (⟨.other, some entries⟩, rest)
    | _ =>
      match readText chars with
      | some (text, rest) => some (⟨.text text, none⟩, rest)
      | none =>
        let word := chars.takeWhile isNumberChar
        match numberOf? word with
        | some value => some (⟨value, none⟩, chars.drop word.length)
        | none => readNamed (readValue depth) chars

/-- The text after the attributes that a file may begin with. -/
def afterAttributes : Nat → List Char → List Char
  | 0, chars => chars
  | fuel + 1, chars =>
    match skip chars with
    | '#' :: '!' :: '[' :: rest => afterAttributes fuel ((rest.dropWhile (· != ']')).drop 1)
    | chars => chars

/-- The assignments of a file; the last one of a name counts. -/
def assignments? (text : String) : Option (List Assignment) :=
  match readValue (text.length + 1) (afterAttributes text.length text.toList) with
  | some (reading, rest) => if (skip rest).isEmpty then reading.fields? else none
  | none => none

end FareSearch.Ron
