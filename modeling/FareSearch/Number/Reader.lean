import FareSearch.Number.Binary64

/-!
# Reading whole numbers

Texts of decimal digits with an optional sign, checked against a range.
-/

namespace FareSearch.Number

def isDigit (c : Char) : Bool :=
  '0' ≤ c && c ≤ '9'

def digitValue (c : Char) : Nat :=
  c.toNat - '0'.toNat

/-- The value of a run of digits. -/
def ofDigits (digits : List Char) : Nat :=
  digits.foldl (fun value c ↦ value * 10 + digitValue c) 0

/-- One or more digits and nothing else. -/
def digits? (chars : List Char) : Option Nat :=
  if chars.isEmpty || !chars.all isDigit then none else some (ofDigits chars)

/-- Digits after an optional plus sign. -/
def unsigned? (chars : List Char) : Option Nat :=
  match chars with
  | '+' :: rest => digits? rest
  | _ => digits? chars

/-- Digits after an optional sign. -/
def signed? (chars : List Char) : Option Int :=
  match chars with
  | '-' :: rest => (digits? rest).map fun n ↦ -(Int.ofNat n)
  | _ => (unsigned? chars).map Int.ofNat

def natWithin (limit : Nat) (n : Int) : Option Nat :=
  if 0 ≤ n && n ≤ limit then some n.toNat else none

/-- The largest unsigned 32-bit number. -/
def limit32 : Nat :=
  twoPow 32 - 1

/-- The largest unsigned 64-bit number. -/
def limit64 : Nat :=
  twoPow 64 - 1

/-- Whole numbers that a signed 64-bit word holds. -/
def intWithin64 (n : Int) : Option Int :=
  if -(twoPow 63 : Int) ≤ n && n < twoPow 63 then some n else none

end FareSearch.Number
