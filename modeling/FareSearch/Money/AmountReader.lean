import FareSearch.Money.Amount
import FareSearch.Number.Reader
import FareSearch.Number.Shortest
import FareSearch.Json.Record

/-!
# Reading amounts

Text of an amount: an optional sign, digits with at most one point, and underscores after a first
digit. A fraction that needs more than 28 places or 96 bits is rounded at the first digit that no
longer fits, a half upwards; after that digit only digits and underscores may follow. The exponent
form multiplies such a text by a power of ten.
-/

namespace FareSearch.Amount

open FareSearch.Number

/-- An amount as it is written: zero has no sign. -/
def written? (negative : Bool) (magnitude scale : Nat) : Option Amount :=
  of? (negative && magnitude ≠ 0) magnitude (scale % 29)

def isDigitOrGap (c : Char) : Bool :=
  isDigit c || c == '_'

/-- Rounds at the first of the digits that no longer fit; an underscore in its place counts as
zero. -/
def roundedAt? (negative : Bool) (magnitude scale : Nat) (unfit : List Char) : Option Amount :=
  if !unfit.all isDigitOrGap then none
  else if (unfit.head?.any fun c ↦ isDigit c && digitValue c ≥ 5) then
    if magnitude + 1 < twoPow 96 then written? negative (magnitude + 1) scale
    else if scale = 0 then none
    else written? negative ((magnitude + 5) / 10) (scale - 1)
  else written? negative magnitude scale

/-- A margin of a byte below the largest magnitude that takes one more digit in 64 bits. A magnitude
that was at least so large before its last digit passes over underscores even where its places are
used up. -/
def wideFrom : Nat :=
  (twoPow 64 - 1) / 10 - 255

/-- The digits of an amount. `afterPoint` and `seen` tell whether the point and a digit came. -/
def readDigits (negative : Bool) (magnitude scale : Nat) (afterPoint seen : Bool) :
    List Char → Option Amount
  | [] => if seen then written? negative magnitude scale else none
  | c :: rest =>
    if isDigit c then
      let next := magnitude * 10 + digitValue c
      let places := if afterPoint then scale + 1 else scale
      if twoPow 96 ≤ next then
        if afterPoint then roundedAt? negative magnitude scale (c :: rest) else none
      else if afterPoint && 28 ≤ places then
        match rest with
        | [] => written? negative next places
        | d :: after =>
          if d == '_' && wideFrom ≤ magnitude then
            readDigits negative next places afterPoint true after
          else roundedAt? negative next places (d :: after)
      else readDigits negative next places afterPoint true rest
    else if c == '.' && !afterPoint then readDigits negative magnitude scale true seen rest
    else if c == '_' && seen then readDigits negative magnitude scale afterPoint seen rest
    else none

/-- An amount without an exponent. -/
def readPlain? (chars : List Char) : Option Amount :=
  match chars with
  | '-' :: rest => readDigits true 0 0 false false rest
  | '+' :: rest => readDigits false 0 0 false false rest
  | _ => readDigits false 0 0 false false chars

def ofText? (text : String) : Option Amount :=
  readPlain? text.toList

/-- Divides by a power of ten. Where the places run out, the amount is rounded half up first, and
keeps its sign even if nothing but zero remains. -/
def shiftRight? (amount : Amount) (places : Nat) : Option Amount :=
  if amount.scale + places ≤ 28 then
    of? amount.negative amount.magnitude (amount.scale + places)
  else
    let surplus := amount.scale + places - 28
    of? amount.negative (roundHalfUp amount.magnitude (tenPow surplus)) 28

/-- Multiplies by a power of ten. Places are used up first; a result that needed more than those
is normal. -/
def shiftLeft? (amount : Amount) (places : Nat) : Option Amount :=
  if places ≤ amount.scale then of? amount.negative amount.magnitude (amount.scale - places)
  else if places > 28 then none
  else
    (of? amount.negative (amount.magnitude * tenPow (places - amount.scale)) 0).map normalize

def isExponentMark (c : Char) : Bool :=
  c == 'e' || c == 'E'

/-- An amount, the mark of an exponent, and the exponent. -/
def readScientific? (chars : List Char) : Option Amount :=
  match chars.dropWhile (fun c ↦ !isExponentMark c) with
  | [] => none
  | _ :: exponent =>
    match readPlain? (chars.takeWhile fun c ↦ !isExponentMark c) with
    | none => none
    | some amount =>
      match exponent with
      | '-' :: digits =>
        match unsigned? digits with
        | some places => if places > 28 then none else shiftRight? amount places
        | none => none
      | digits => (unsigned? digits).bind (shiftLeft? amount)

/-- An amount in either form. -/
def ofTextOrScientific? (text : String) : Option Amount :=
  (readPlain? text.toList).orElse fun _ ↦ readScientific? text.toList

/-- An amount from JSON: a number by its decimal text, or a string. -/
def ofJson? : Json.Reader Amount
  | .number (.whole value) => of? (value < 0) value.natAbs 0
  | .number (.double value) => ofText? (Number.shortestText value)
  | .string text => ofTextOrScientific? text
  | _ => none

def toJson (amount : Amount) : Json :=
  .string amount.text

end FareSearch.Amount
