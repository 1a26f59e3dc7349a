import FareSearch.Calendar.Timestamp
import FareSearch.Json.Record
import FareSearch.Text.Blank

/-!
# Reading dates, times and offsets

The relaxed forms allow white space before each number and each mark of a date, one digit for two,
and long signed years; the strict form of a timestamp has fixed widths. A reader gives the value
and the text after it.
-/

namespace FareSearch.Calendar

open FareSearch.Number FareSearch.Text

/-- Between `least` and `most` digits, as many as there are. -/
def scanDigits (least most : Nat) (chars : List Char) : Option (Nat × List Char) :=
  let digits := (chars.take most).takeWhile isDigit
  if digits.length < least then none
  else some (ofDigits digits, chars.drop digits.length)

/-- A number of one or two digits within bounds, after white space. -/
def scanField (low high : Nat) (chars : List Char) : Option (Nat × List Char) := do
  let (value, rest) ← scanDigits 1 2 (trimStart chars)
  if low ≤ value && value ≤ high then some (value, rest) else none

def scanChar (c : Char) (chars : List Char) : Option (List Char) :=
  match chars with
  | d :: rest => if c == d then some rest else none
  | [] => none

/-- A mark with white space before it. -/
def scanMark (c : Char) (chars : List Char) : Option (List Char) :=
  scanChar c (trimStart chars)

/-- A year: up to four digits, or a sign and any number of digits. -/
def scanYear (chars : List Char) : Option (Int × List Char) :=
  match trimStart chars with
  | '-' :: rest => (scanDigits 1 rest.length rest).map fun (value, rest) ↦ (-Int.ofNat value, rest)
  | '+' :: rest => (scanDigits 1 rest.length rest).map fun (value, rest) ↦ (Int.ofNat value, rest)
  | chars => (scanDigits 1 4 chars).map fun (value, rest) ↦ (Int.ofNat value, rest)

def scanDate (chars : List Char) : Option (Date × List Char) := do
  let (year, rest) ← scanYear chars
  let rest ← scanMark '-' rest
  let (month, rest) ← scanField 1 12 rest
  let rest ← scanMark '-' rest
  let (day, rest) ← scanField 1 31 rest
  let date ← Date.of? year month day
  return (date, rest)

/-- A date and nothing but white space after it. -/
def date? (text : String) : Option Date := do
  let (date, rest) ← scanDate text.toList
  if (trimStart rest).isEmpty then some date else none

/-- The fraction of a second, if a point begins one: nine digits count. -/
def scanFraction (chars : List Char) : Option (Nat × List Char) :=
  match chars with
  | '.' :: rest => do
    let digits := (rest.take 9).takeWhile isDigit
    if digits.isEmpty then none
    else
      let nano := ofDigits digits * tenPow (9 - digits.length)
      some (nano, (rest.drop digits.length).dropWhile isDigit)
  | _ => some (0, chars)

/-- The time of day of its parts; second 60 is a leap second. -/
def timeOf (hour minute second nano : Nat) : TimeOfDay :=
  if second = 60 then ⟨hour * 3600 + minute * 60 + 59, 1000000000 + nano⟩
  else ⟨hour * 3600 + minute * 60 + second, nano⟩

def scanTime (chars : List Char) : Option (TimeOfDay × List Char) := do
  let (hour, rest) ← scanField 0 23 chars
  let rest ← scanMark ':' rest
  let (minute, rest) ← scanField 0 59 rest
  let rest ← scanMark ':' rest
  let (second, rest) ← scanField 0 60 rest
  let (nano, rest) ← scanFraction rest
  return (timeOf hour minute second nano, rest)

/-- The sign of an offset: plus, hyphen or minus. -/
def scanSign : List Char → Option (Bool × List Char)
  | '+' :: rest => some (false, rest)
  | '-' :: rest => some (true, rest)
  | '\u2212' :: rest => some (true, rest)
  | _ => none

/-- Two digits. -/
def scanPair (chars : List Char) : Option (Nat × List Char) :=
  scanDigits 2 2 chars

/-- A signed offset in hours and minutes below a day; `separator` reads what stands between. -/
def scanSignedOffset (separator : List Char → Option (List Char)) (chars : List Char) :
    Option (Int × List Char) := do
  let (negative, rest) ← scanSign chars
  let (hours, rest) ← scanPair rest
  let rest ← separator rest
  let (minutes, rest) ← scanPair rest
  if minutes > 59 || hours > 23 then none
  else
    let seconds : Int := Int.ofNat (hours * 3600 + minutes * 60)
    some (if negative then -seconds else seconds, rest)

/-- Colons and white space between hours and minutes. -/
def looseSeparator (chars : List Char) : Option (List Char) :=
  some (chars.dropWhile fun c ↦ c == ':' || isBlank c)

/-- An offset, or the letter that stands for none. -/
def scanOffset (separator : List Char → Option (List Char)) (chars : List Char) :
    Option (Int × List Char) :=
  match chars with
  | 'Z' :: rest => some (0, rest)
  | 'z' :: rest => some (0, rest)
  | _ => scanSignedOffset separator chars

/-- A signed offset; text after it is not looked at. -/
def offset? (text : String) : Option Int :=
  (scanSignedOffset looseSeparator text.toList).map (·.1)

def scanDayTimeMark (chars : List Char) : Option (List Char) :=
  match chars with
  | 't' :: rest => some rest
  | 'T' :: rest => some rest
  | ' ' :: rest => some rest
  | _ => none

/-- The three letters of universal time, in any case. -/
def scanUniversal (chars : List Char) : Option (List Char) :=
  match chars with
  | u :: t :: c :: rest =>
    if (u == 'u' || u == 'U') && (t == 't' || t == 'T') && (c == 'c' || c == 'C') then some rest
    else none
  | _ => none

/-- A timestamp in the relaxed form. -/
def timestamp? (text : String) : Option Timestamp := do
  let (date, rest) ← scanDate text.toList
  let rest ← scanDayTimeMark rest
  let (time, rest) ← scanTime rest
  let rest := trimStart rest
  let (offset, rest) ← match scanUniversal rest with
    | some rest => some (0, rest)
    | none => scanOffset looseSeparator rest
  if (trimStart rest).isEmpty then Timestamp.ofLocal? date time offset else none

/-- A timestamp with fixed widths and a colon in its offset. -/
def strictTimestamp? (text : String) : Option Timestamp := do
  let (year, rest) ← scanDigits 4 4 text.toList
  let rest ← scanChar '-' rest
  let (month, rest) ← scanPair rest
  let rest ← scanChar '-' rest
  let (day, rest) ← scanPair rest
  let rest ← scanDayTimeMark rest
  let (hour, rest) ← scanPair rest
  let rest ← scanChar ':' rest
  let (minute, rest) ← scanPair rest
  let rest ← scanChar ':' rest
  let (second, rest) ← scanPair rest
  let (nano, rest) ← scanFraction rest
  let (offset, rest) ← scanOffset (scanChar ':') rest
  if rest.isEmpty && hour ≤ 23 && minute ≤ 59 && second ≤ 60 then
    let date ← Date.of? year month day
    Timestamp.ofLocal? date (timeOf hour minute second nano) offset
  else none

/-- Hours and minutes of a day. White space may stand before each number. -/
def timeOfDay? (text : String) : Option TimeOfDay := do
  let (hour, rest) ← scanField 0 23 text.toList
  let rest ← scanChar ':' rest
  let (minute, rest) ← scanField 0 59 rest
  if rest.isEmpty then some (timeOf hour minute 0 0) else none

def dateOfJson? : Json.Reader Date
  | .string text => date? text
  | _ => none

def timestampOfJson? : Json.Reader Timestamp
  | .string text => timestamp? text
  | _ => none

end FareSearch.Calendar
