import FareSearch.Json.Value
import FareSearch.Number.Reader

/-!
# Reading JSON text

One value with white space around it. A literal without fraction and exponent that fits 64 bits is
a whole number; any other is a double, computed from the leading digits that fit 64 bits and a
power of ten. A whole value nests at most 127 deep and has no unreadable part; for records, of
which some parts are passed over, neither matters.
-/

namespace FareSearch.Json

open FareSearch.Number

def isSpace (c : Char) : Bool :=
  c == ' ' || c == '\n' || c == '\t' || c == '\r'

def skipSpace (chars : List Char) : List Char :=
  chars.dropWhile isSpace

def hexValue? (c : Char) : Option Nat :=
  if '0' ≤ c && c ≤ '9' then some (c.toNat - '0'.toNat)
  else if 'a' ≤ c && c ≤ 'f' then some (c.toNat - 'a'.toNat + 10)
  else if 'A' ≤ c && c ≤ 'F' then some (c.toNat - 'A'.toNat + 10)
  else none

/-- Four hexadecimal digits. -/
def unit? : List Char → Option (Nat × List Char)
  | a :: b :: c :: d :: rest => do
    let a ← hexValue? a
    let b ← hexValue? b
    let c ← hexValue? c
    let d ← hexValue? d
    return (((a * 16 + b) * 16 + c) * 16 + d, rest)
  | _ => none

/-- The character of an escape by number, after its first two marks; none is half a surrogate
pair. -/
def escapedPoint? (chars : List Char) : Option (Option Char × List Char) := do
  let (first, rest) ← unit? chars
  if 0xDC00 ≤ first && first ≤ 0xDFFF then return (none, rest)
  else if 0xD800 ≤ first && first ≤ 0xDBFF then
    match rest with
    | '\\' :: 'u' :: more =>
      let (second, more) ← unit? more
      if 0xDC00 ≤ second && second ≤ 0xDFFF then
        let point := 0x10000 + (first - 0xD800) * 0x400 + (second - 0xDC00)
        return (some (Char.ofNat point), more)
      else return (none, rest)
    | _ => return (none, rest)
  else return (some (Char.ofNat first), rest)

def simpleEscape? : Char → Option Char
  | '"' => some '"'
  | '\\' => some '\\'
  | '/' => some '/'
  | 'b' => some '\x08'
  | 'f' => some '\x0c'
  | 'n' => some '\n'
  | 'r' => some '\r'
  | 't' => some '\t'
  | _ => none

/-- The rest of a string after its opening quote; `read` is what was read so far, last first, or
none after half a surrogate pair, which leaves no string. -/
def readString (read : Option (List Char)) : Nat → List Char → Option (Option String × List Char)
  | 0, _ => none
  | _ + 1, [] => none
  | fuel + 1, c :: rest =>
    if c == '"' then some (read.map fun read ↦ String.ofList read.reverse, rest)
    else if c == '\\' then
      match rest with
      | 'u' :: rest =>
        match escapedPoint? rest with
        | some (some point, rest) => readString (read.map (point :: ·)) fuel rest
        | some (none, rest) => readString none fuel rest
        | none => none
      | mark :: rest =>
        match simpleEscape? mark with
        | some char => readString (read.map (char :: ·)) fuel rest
        | none => none
      | [] => none
    else if c.toNat < 0x20 then none
    else readString (read.map (c :: ·)) fuel rest

/-- A string after its opening quote. -/
def readQuoted (chars : List Char) : Option (Option String × List Char) :=
  readString (some []) (chars.length + 1) chars

/-- A significand scaled by a power of ten in double arithmetic; none where the result leaves the
range of doubles. -/
def scaled? (significand : Nat) (exponent : Int) : Option Float :=
  let start := ofNat significand
  let rec shrink : Nat → Float → Nat → Float
    | 0, value, _ => value
    | fuel + 1, value, places =>
      if places ≤ 308 then value / tenTo places
      else if value == 0 then value
      else shrink fuel (value / tenTo 308) (places - 308)
  if 0 ≤ exponent then
    if exponent ≤ 308 then
      let value := start * tenTo exponent.toNat
      if value.isInf then none else some value
    else if start == 0 then some start
    else none
  else some (shrink 8 start (-exponent).toNat)

/-- The leading digits of a number: those that fit 64 bits, and how many follow them. -/
def leadingDigits (significand : Nat) : List Char → Nat × Nat
  | [] => (significand, 0)
  | c :: rest =>
    let next := significand * 10 + digitValue c
    if next > limit64 then (significand, rest.length + 1) else leadingDigits next rest

def signedDouble (negative : Bool) (value : Float) : Json :=
  .number (.double (if negative then -value else value))

/-- The double of a significand and its exponent, the written exponent included. -/
def doubleOf (negative : Bool) (significand : Nat) (exponent : Int) : Json :=
  match scaled? significand exponent with
  | some value => signedDouble negative value
  | none => .unreadable

/-- The exponent of a number after its `e`. One of more than 31 bits stands for no bound. -/
def readExponent (negative : Bool) (significand : Nat) (shift : Int) (chars : List Char) :
    Option (Json × List Char) :=
  let (down, chars) := match chars with
    | '+' :: rest => (false, rest)
    | '-' :: rest => (true, rest)
    | _ => (false, chars)
  let digits := chars.takeWhile isDigit
  let rest := chars.dropWhile isDigit
  if digits.isEmpty then none
  else
    let written := ofDigits digits
    let value :=
      if written ≥ twoPow 31 then
        if significand ≠ 0 && !down then .unreadable else signedDouble negative 0
      else doubleOf negative significand (if down then shift - written else shift + written)
    some (value, rest)

/-- A number after its sign. -/
def readNumber (negative : Bool) (chars : List Char) : Option (Json × List Char) :=
  let digits := chars.takeWhile isDigit
  let rest := chars.dropWhile isDigit
  let wellFormed := match digits with
    | [] => false
    | ['0'] => true
    | '0' :: _ => false
    | _ => true
  if !wellFormed then none
  else
    let (significand, dropped) := leadingDigits 0 digits
    match rest with
    | '.' :: rest =>
      let fraction := rest.takeWhile isDigit
      let rest := rest.dropWhile isDigit
      if fraction.isEmpty then none
      else
        let (significand, unread) := leadingDigits significand fraction
        let shift := Int.ofNat dropped - Int.ofNat (fraction.length - unread)
        match rest with
        | 'e' :: rest => readExponent negative significand shift rest
        | 'E' :: rest => readExponent negative significand shift rest
        | _ => some (doubleOf negative significand shift, rest)
    | 'e' :: rest => readExponent negative significand dropped rest
    | 'E' :: rest => readExponent negative significand dropped rest
    | _ =>
      if dropped ≠ 0 then some (doubleOf negative significand dropped, rest)
      else if !negative then some (.whole significand, rest)
      else if significand = 0 || significand > twoPow 63 then
        some (signedDouble true (ofNat significand), rest)
      else some (.whole (-(Int.ofNat significand)), rest)

/-- The rest of a word, if the text continues with it. -/
def afterWord? : List Char → List Char → Option (List Char)
  | [], chars => some chars
  | w :: word, c :: chars => if w == c then afterWord? word chars else none
  | _ :: _, [] => none

mutual

/-- One value; `depth` is how deep it may nest. -/
def readValue : Nat → Nat → List Char → Option (Json × List Char)
  | 0, _, _ => none
  | fuel + 1, depth, chars =>
    match skipSpace chars with
    | 'n' :: rest => (afterWord? "ull".toList rest).map fun rest ↦ (.null, rest)
    | 't' :: rest => (afterWord? "rue".toList rest).map fun rest ↦ (.bool true, rest)
    | 'f' :: rest => (afterWord? "alse".toList rest).map fun rest ↦ (.bool false, rest)
    | '"' :: rest =>
      (readQuoted rest).map fun (text, rest) ↦ ((text.map .string).getD .unreadable, rest)
    | '-' :: rest => readNumber true rest
    | '[' :: rest =>
      match depth with
      | 0 => none
      | depth + 1 =>
        match skipSpace rest with
        | ']' :: rest => some (.array [], rest)
        | _ => (readItems fuel depth rest).map fun (items, rest) ↦ (.array items, rest)
    | '{' :: rest =>
      match depth with
      | 0 => none
      | depth + 1 =>
        match skipSpace rest with
        | '}' :: rest => some (.object [], rest)
        | _ =>
          (readMembers fuel depth rest).map fun (members, rest) ↦
            ((members.map .object).getD .unreadable, rest)
    | chars => readNumber false chars

/-- The items of an array up to its closing bracket. -/
def readItems : Nat → Nat → List Char → Option (List Json × List Char)
  | 0, _, _ => none
  | fuel + 1, depth, chars =>
    match readValue fuel depth chars with
    | none => none
    | some (item, rest) =>
      match skipSpace rest with
      | ',' :: rest => (readItems fuel depth rest).map fun (items, rest) ↦ (item :: items, rest)
      | ']' :: rest => some ([item], rest)
      | _ => none

/-- The members of an object up to its closing brace; none where a name is unreadable. -/
def readMembers : Nat → Nat → List Char → Option (Option (List (String × Json)) × List Char)
  | 0, _, _ => none
  | fuel + 1, depth, chars =>
    match skipSpace chars with
    | '"' :: rest =>
      match readQuoted rest with
      | none => none
      | some (name, rest) =>
        match skipSpace rest with
        | ':' :: rest =>
          match readValue fuel depth rest with
          | none => none
          | some (value, rest) =>
            let member := name.map (·, value)
            match skipSpace rest with
            | ',' :: rest =>
              (readMembers fuel depth rest).map fun (members, rest) ↦
                (member.bind fun member ↦ members.map (member :: ·), rest)
            | '}' :: rest => some (member.map ([·]), rest)
            | _ => none
        | _ => none
    | _ => none

end

/-- The value of a whole text that nests at most so deep. -/
def readNested? (depth : Nat) (text : String) : Option Json :=
  let chars := text.toList
  match readValue (2 * chars.length + 2) depth chars with
  | some (json, rest) => if (skipSpace rest).isEmpty then some json else none
  | none => none

/-- The value of a text whose parts may be unreadable, and may nest as deep as the text is long. -/
def readLoose? (text : String) : Option Json :=
  readNested? text.length text

/-- The value of a text all of which can be read. -/
def read? (text : String) : Option Json :=
  (readNested? 127 text).filter isReadable

end FareSearch.Json
