import FareSearch.Json.Reader
import FareSearch.Number.RealReader
import FareSearch.Settings.Assignment
import FareSearch.Text.AlphanumericTable
import FareSearch.Text.Blank
import FareSearch.Text.Series

/-!
# JSON5 files

JSON with comments, bare names, quotes of two kinds, commas after the last item, and numbers with
a plus sign, in hexadecimal, or with a bare point. A whole number has to fit a signed 64-bit word.
-/

namespace FareSearch.Json5

open FareSearch.Number FareSearch.Text

def isLineEnd (c : Char) : Bool :=
  c == '\n' || c == '\r' || c == '\u2028' || c == '\u2029'

def isIdle (c : Char) : Bool :=
  (isBlank c && c != '\x85') || c == '\uFEFF'

/-- The text after a comment between marks. -/
def afterComment? : List Char → Option (List Char)
  | '*' :: '/' :: rest => some rest
  | _ :: rest => afterComment? rest
  | [] => none

/-- The text after white space and comments. -/
def skipIdle : Nat → List Char → List Char
  | 0, chars => chars
  | fuel + 1, chars =>
    match chars with
    | '/' :: '/' :: rest => skipIdle fuel (rest.dropWhile (!isLineEnd ·))
    | '/' :: '*' :: rest =>
      match afterComment? rest with
      | some rest => skipIdle fuel rest
      | none => chars
    | c :: rest => if isIdle c then skipIdle fuel rest else chars
    | [] => []

def skip (chars : List Char) : List Char :=
  skipIdle (chars.length + 1) chars

/-- What an escape stands for after its backslash; a line break stands for nothing. -/
def escaped? : List Char → Option (List Char × List Char)
  | [] => none
  | '\r' :: '\n' :: rest => some ([], rest)
  | '0' :: rest => if rest.head?.any isDigit then none else some (['\x00'], rest)
  | 'b' :: rest => some (['\x08'], rest)
  | 'f' :: rest => some (['\x0c'], rest)
  | 'n' :: rest => some (['\n'], rest)
  | 'r' :: rest => some (['\r'], rest)
  | 't' :: rest => some (['\t'], rest)
  | 'v' :: rest => some (['\x0b'], rest)
  | 'x' :: high :: low :: rest => do
    let high ← Json.hexValue? high
    let low ← Json.hexValue? low
    return ([Char.ofNat (16 * high + low)], rest)
  | 'u' :: rest =>
    match Json.escapedPoint? rest with
    | some (some point, rest) => some ([point], rest)
    | _ => none
  | c :: rest =>
    if isLineEnd c then some ([], rest) else if isDigit c then none else some ([c], rest)

/-- The rest of a string. -/
def readString (quote : Char) (read : List Char) : Nat → List Char → Option (String × List Char)
  | 0, _ => none
  | _ + 1, [] => none
  | fuel + 1, c :: rest =>
    if c == quote then some (String.ofList read.reverse, rest)
    else if c == '\\' then
      match escaped? rest with
      | some (chars, rest) => readString quote (chars ++ read) fuel rest
      | none => none
    else if c == '\n' || c == '\r' then none
    else readString quote (c :: read) fuel rest

def readQuoted : List Char → Option (String × List Char)
  | '"' :: rest => readString '"' [] (rest.length + 1) rest
  | '\'' :: rest => readString '\'' [] (rest.length + 1) rest
  | _ => none

def isNameChar (c : Char) : Bool :=
  isAlphanumeric c || c == '$' || c == '_'

/-- The name of a member, bare or quoted. -/
def readName (chars : List Char) : Option (String × List Char) :=
  match readQuoted chars with
  | some result => some result
  | none =>
    let name := chars.takeWhile isNameChar
    if name.isEmpty || name.head?.any isDigit then none
    else some (String.ofList name, chars.drop name.length)

/-- Whether digits have no zero before others. -/
def isWhole (digits : List Char) : Bool :=
  digits.all isDigit && (digits.length = 1 || digits.head? != some '0')

/-- A decimal number without its sign: digits on one side of a point or on both, and perhaps an
exponent. -/
def isDecimal (chars : List Char) : Bool :=
  let whole := chars.takeWhile isDigit
  let rest := chars.dropWhile isDigit
  let (fraction, rest) := match rest with
    | '.' :: rest => (rest.takeWhile isDigit, rest.dropWhile isDigit)
    | _ => ([], rest)
  isWhole whole && !(whole.isEmpty && fraction.isEmpty) && (exponent? rest).isSome

/-- The value of a number. -/
def numberOf? (word : List Char) : Option SettingValue :=
  match word with
  | '0' :: x :: digits =>
    if x == 'x' || x == 'X' then do
      let values ← digits.mapM Json.hexValue?
      if values.isEmpty then none
      else
        let value := values.foldl (fun value digit ↦ value * 16 + digit) 0
        (intWithin64 (value : Nat)).map .whole
    else decimal?
  | _ => decimal?
where
  decimal? : Option SettingValue :=
    let chars := match word with
      | '-' :: rest => rest
      | '+' :: rest => rest
      | _ => word
    if chars == "Infinity".toList || chars == "NaN".toList then (real? word).map .real
    else if chars.all isDigit then
      if isWhole chars then ((signed? word).bind intWithin64).map .whole else none
    else if isDecimal chars then (real? word).map .real
    else none

def isWordChar (c : Char) : Bool :=
  isNameChar c || c == '+' || c == '-' || c == '.'

/-- A value that is no string, object or array. -/
def readWord (chars : List Char) : Option (SettingValue × List Char) :=
  let word := chars.takeWhile isWordChar
  let value? :=
    if word == "null".toList then some .other
    else if word == "true".toList then some (.flag true)
    else if word == "false".toList then some (.flag false)
    else numberOf? word
  value?.map fun value ↦ (value, chars.drop word.length)

/-- A member of an object, given how values are read. -/
def readMember (value : List Char → Option (SettingValue × List Char)) (chars : List Char) :
    Option (Assignment × List Char) := do
  let (name, rest) ← readName chars
  match skip rest with
  | ':' :: rest => do
    let (value, rest) ← value (skip rest)
    return ((name, value), rest)
  | _ => none

/-- A value that nests at most so deep. -/
def readValue : Nat → List Char → Option (SettingValue × List Char)
  | 0, _ => none
  | depth + 1, chars =>
    match chars with
    | '[' :: rest =>
      (readSeries skip (readValue depth) ']' (rest.length + 1) rest).map fun (_, rest) ↦
        (.other, rest)
    | '\x7b' :: rest =>
      (readSeries skip (readMember (readValue depth)) '\x7d' (rest.length + 1) rest).map
        fun (_, rest) ↦ (.other, rest)
    | _ =>
      match readQuoted chars with
      | some (text, rest) => some (.text text, rest)
      | none => readWord chars

/-- The assignments of a file, which has to hold an object; the last one of a name counts. -/
def assignments? (text : String) : Option (List Assignment) :=
  match skip text.toList with
  | '\x7b' :: rest =>
    let member := readMember (readValue (rest.length + 1))
    match readSeries skip member '\x7d' (rest.length + 1) rest with
    | some (members, rest) => if (skip rest).isEmpty then some members else none
    | none => none
  | _ => none

end FareSearch.Json5
