import FareSearch.Calendar.Reader
import FareSearch.Json.Reader
import FareSearch.Number.RealReader
import FareSearch.Settings.Assignment

/-!
# Scalars of TOML

Strings in quotes of four kinds, and the values without quotes: truth values, whole numbers of 64
bits in four bases, real numbers, dates and times. A reader gives the value and the text after it.
-/

namespace FareSearch.Toml

open FareSearch.Number

def isGap (c : Char) : Bool :=
  c == ' ' || c == '\t'

def skipGaps (chars : List Char) : List Char :=
  chars.dropWhile isGap

/-- Controls other than the tab, which stand nowhere but at the end of a line. -/
def isControl (c : Char) : Bool :=
  (c.toNat < 0x20 && c != '\t') || c.toNat == 0x7F

/-- The text after a line break. -/
def afterBreak? : List Char → Option (List Char)
  | '\n' :: rest => some rest
  | '\r' :: '\n' :: rest => some rest
  | _ => none

/-- Hexadecimal digits, so many, as a code point. -/
def codePoint? (count : Nat) (chars : List Char) : Option (Char × List Char) := do
  let digits ← (chars.take count).mapM Json.hexValue?
  let point := digits.foldl (fun value digit ↦ value * 16 + digit) 0
  if digits.length = count && (Char.ofNat point).toNat = point then
    some (Char.ofNat point, chars.drop count)
  else none

/-- The character of an escape after its backslash. -/
def escaped? : List Char → Option (Char × List Char)
  | 'b' :: rest => some ('\x08', rest)
  | 't' :: rest => some ('\t', rest)
  | 'n' :: rest => some ('\n', rest)
  | 'f' :: rest => some ('\x0c', rest)
  | 'r' :: rest => some ('\r', rest)
  | 'e' :: rest => some ('\x1b', rest)
  | '"' :: rest => some ('"', rest)
  | '\\' :: rest => some ('\\', rest)
  | 'x' :: rest => codePoint? 2 rest
  | 'u' :: rest => codePoint? 4 rest
  | 'U' :: rest => codePoint? 8 rest
  | _ => none

/-- The rest of a string on one line. Double quotes have escapes, single quotes have none. -/
def readLine (quote : Char) (read : List Char) : Nat → List Char → Option (String × List Char)
  | 0, _ => none
  | _ + 1, [] => none
  | fuel + 1, c :: rest =>
    if c == quote then some (String.ofList read.reverse, rest)
    else if c == '\\' && quote == '"' then
      match escaped? rest with
      | some (char, rest) => readLine quote (char :: read) fuel rest
      | none => none
    else if isControl c then none
    else readLine quote (c :: read) fuel rest

/-- Drops line breaks and gaps. -/
def skipBreaks (chars : List Char) : List Char :=
  chars.dropWhile fun c ↦ isGap c || c == '\n' || c == '\r'

/-- The rest of a string over lines. Three quotes end it, and up to two more belong to it; after a
backslash at the end of a line white space is passed over. -/
def readLines (quote : Char) (read : List Char) : Nat → List Char → Option (String × List Char)
  | 0, _ => none
  | _ + 1, [] => none
  | fuel + 1, c :: rest =>
    if c == quote then
      let quotes := min 5 ((c :: rest).takeWhile (· == quote)).length
      if quotes < 3 then readLines quote (quote :: read) fuel rest
      else
        let read := List.replicate (quotes - 3) quote ++ read
        some (String.ofList read.reverse, (c :: rest).drop quotes)
    else if c == '\\' && quote == '"' then
      if (afterBreak? (skipGaps rest)).isSome then readLines quote read fuel (skipBreaks rest)
      else
        match escaped? rest with
        | some (char, rest) => readLines quote (char :: read) fuel rest
        | none => none
    else
      match afterBreak? (c :: rest) with
      | some rest => readLines quote ('\n' :: read) fuel rest
      | none => if isControl c then none else readLines quote (c :: read) fuel rest

/-- A string that begins with a quote, on one line. -/
def readQuoted : List Char → Option (String × List Char)
  | '"' :: rest => readLine '"' [] (rest.length + 1) rest
  | '\'' :: rest => readLine '\'' [] (rest.length + 1) rest
  | _ => none

/-- The text over lines after its opening quotes; a line break right after them is dropped. -/
def readBlock (quote : Char) (chars : List Char) : Option (String × List Char) :=
  readLines quote [] (chars.length + 1) ((afterBreak? chars).getD chars)

/-- A string of any kind. -/
def readString (chars : List Char) : Option (String × List Char) :=
  match chars with
  | '"' :: '"' :: '"' :: rest => readBlock '"' rest
  | '\'' :: '\'' :: '\'' :: rest => readBlock '\'' rest
  | _ => readQuoted chars

/-- Digits with single underscores between them. -/
def grouped? (isUnit : Char → Bool) : List Char → Option (List Char)
  | [] => none
  | [c] => if isUnit c then some [c] else none
  | c :: '_' :: rest => if isUnit c then (grouped? isUnit rest).map (c :: ·) else none
  | c :: rest => if isUnit c then (grouped? isUnit rest).map (c :: ·) else none

/-- A whole number in a base of at most sixteen. -/
def inBase? (base : Nat) (chars : List Char) : Option Int := do
  let digits ← grouped? (fun c ↦ (Json.hexValue? c).any (· < base)) chars
  let values ← digits.mapM Json.hexValue?
  intWithin64 (values.foldl (fun value digit ↦ value * base + digit) 0 : Nat)

/-- A sign, and the text after it. -/
def signOf : List Char → List Char × List Char
  | '-' :: rest => (['-'], rest)
  | '+' :: rest => ([], rest)
  | chars => ([], chars)

/-- The digits before a point: no zero stands before others. -/
def wholeDigits? (chars : List Char) : Option (List Char) :=
  match grouped? isDigit chars with
  | some ('0' :: _ :: _) => none
  | digits => digits

/-- A real number: a fraction, an exponent or both. -/
def realNumber? (chars : List Char) : Option Float := do
  let (sign, chars) := signOf chars
  let whole := chars.takeWhile fun c ↦ isDigit c || c == '_'
  let digits ← wholeDigits? whole
  let rest := chars.drop whole.length
  let (fraction, rest) ← match rest with
    | '.' :: rest =>
      let fraction := rest.takeWhile fun c ↦ isDigit c || c == '_'
      (grouped? isDigit fraction).map fun digits ↦ ('.' :: digits, rest.drop fraction.length)
    | _ => some ([], rest)
  let exponent ← match rest with
    | [] => some []
    | mark :: rest =>
      if mark == 'e' || mark == 'E' then
        let (sign, rest) := signOf rest
        (grouped? isDigit rest).map fun digits ↦ 'e' :: (sign ++ digits)
      else none
  if fraction.isEmpty && exponent.isEmpty then none
  else (real? (sign ++ digits ++ fraction ++ exponent)).filter fun value ↦ !value.isInf

/-- Infinity or no number, with a sign or without. -/
def specialNumber? (chars : List Char) : Option Float :=
  let (sign, word) := signOf chars
  if word == "inf".toList || word == "nan".toList then real? (sign ++ word) else none

/-- A time of day, its seconds perhaps left out. -/
def scanTime (chars : List Char) : Option (List Char) := do
  let (hour, rest) ← Calendar.scanPair chars
  let rest ← Calendar.scanChar ':' rest
  let (minute, rest) ← Calendar.scanPair rest
  if hour > 23 || minute > 59 then none
  else
    match rest with
    | ':' :: rest => do
      let (second, rest) ← Calendar.scanPair rest
      let (_, rest) ← Calendar.scanFraction rest
      if second > 60 then none else some rest
    | _ => some rest

/-- A date, alone or with a time and perhaps an offset, or a time alone. -/
def isMoment (chars : List Char) : Bool :=
  let date? := do
    let (year, rest) ← Calendar.scanDigits 4 4 chars
    let rest ← Calendar.scanChar '-' rest
    let (month, rest) ← Calendar.scanPair rest
    let rest ← Calendar.scanChar '-' rest
    let (day, rest) ← Calendar.scanPair rest
    let _ ← Date.of? year month day
    return rest
  match date? with
  | none => scanTime chars == some []
  | some [] => true
  | some rest =>
    match (Calendar.scanDayTimeMark rest).bind scanTime with
    | none => false
    | some [] => true
    | some rest => (Calendar.scanOffset (Calendar.scanChar ':') rest).any (·.2.isEmpty)

/-- The value of a word without quotes. -/
def ofWord? (word : List Char) : Option SettingValue :=
  if word == "true".toList then some (.flag true)
  else if word == "false".toList then some (.flag false)
  else
    match word with
    | '0' :: 'x' :: digits => (inBase? 16 digits).map .whole
    | '0' :: 'o' :: digits => (inBase? 8 digits).map .whole
    | '0' :: 'b' :: digits => (inBase? 2 digits).map .whole
    | _ =>
      let (sign, chars) := signOf word
      match wholeDigits? chars with
      | some digits => ((signed? (sign ++ digits)).bind intWithin64).map .whole
      | none =>
        match (realNumber? word).or (specialNumber? word) with
        | some value => some (.real value)
        | none => if isMoment word then some (.text (String.ofList word)) else none

def isWordChar (c : Char) : Bool :=
  Text.isAsciiLetter c || isDigit c || c == '_' || c == '-' || c == '+' || c == '.' || c == ':'

/-- A word without quotes; a date may be followed by a space and a time. -/
def readWord (chars : List Char) : Option (SettingValue × List Char) :=
  let word := chars.takeWhile isWordChar
  let rest := chars.drop word.length
  let whole := match rest with
    | ' ' :: after =>
      if word.length = 10 && isMoment word && after.head?.any isDigit then
        word ++ ' ' :: after.takeWhile isWordChar
      else word
    | _ => word
  (ofWord? whole).map fun value ↦ (value, chars.drop whole.length)

end FareSearch.Toml
