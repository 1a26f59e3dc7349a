import FareSearch.Number.Binary64

/-!
# Shortest decimal text of a double

Every double is the nearest one to an interval of reals. The shortest decimal in that interval is
found grid by grid: on the grid of one, two, ... seventeen digits the two neighbours of the value
are tried, and the first grid with a neighbour in the interval gives the text.
-/

namespace FareSearch.Number

/-- A magnitude given as `numerator / denominator`. -/
structure Ratio where
  numerator : Nat
  denominator : Nat

namespace Ratio

/-- `n * 2 ^ exponent`. -/
def binary (n : Nat) (exponent : Int) : Ratio :=
  if 0 ≤ exponent then ⟨n <<< exponent.toNat, 1⟩ else ⟨n, 1 <<< (-exponent).toNat⟩

/-- `n * 10 ^ exponent`. -/
def decimal (n : Nat) (exponent : Int) : Ratio :=
  if 0 ≤ exponent then ⟨n * tenPow exponent.toNat, 1⟩ else ⟨n, tenPow (-exponent).toNat⟩

def lt (left right : Ratio) : Bool :=
  left.numerator * right.denominator < right.numerator * left.denominator

def le (left right : Ratio) : Bool :=
  left.numerator * right.denominator ≤ right.numerator * left.denominator

/-- The whole part of a ratio divided by a power of ten. -/
def floorOver (value : Ratio) (exponent : Int) : Nat :=
  let unit := decimal 1 exponent
  value.numerator * unit.denominator / (value.denominator * unit.numerator)

end Ratio

/-- The reals that round to one double; both ends belong to it or neither does. -/
structure RoundingInterval where
  low : Ratio
  value : Ratio
  high : Ratio
  closed : Bool

/-- The interval of `significand * 2 ^ exponent`. Below a power of two the gap is half as wide. -/
def RoundingInterval.of (significand : Nat) (exponent : Int) : RoundingInterval :=
  let narrow := significand = twoPow 52 && exponent > -1074
  { low := .binary (4 * significand - if narrow then 1 else 2) (exponent - 2)
    value := .binary (4 * significand) (exponent - 2)
    high := .binary (4 * significand + 2) (exponent - 2)
    closed := significand % 2 = 0 }

def RoundingInterval.contains (interval : RoundingInterval) (point : Ratio) : Bool :=
  if interval.closed then interval.low.le point && point.le interval.high
  else interval.low.lt point && point.lt interval.high

/-- The decimal exponent of the leading digit of a positive ratio. -/
def leadingExponent (value : Ratio) : Int :=
  let whole := value.numerator / value.denominator
  if whole ≠ 0 then Int.ofNat (Nat.toDigits 10 whole).length - 1
  else
    let rec below : Nat → Nat → Int
      | 0, place => -(Int.ofNat place)
      | fuel + 1, place =>
        if value.denominator ≤ value.numerator * tenPow place then -(Int.ofNat place)
        else below fuel (place + 1)
    below 400 1

/-- The neighbour of the value on the grid `10 ^ exponent` that lies in the interval; of two the
nearer one, and the upper one where both are as near. -/
def gridPoint? (interval : RoundingInterval) (exponent : Int) : Option Nat :=
  let below := interval.value.floorOver exponent
  let above := below + 1
  let low := interval.contains (.decimal below exponent)
  let high := interval.contains (.decimal above exponent)
  match low, high with
  | true, true =>
    let sum := Ratio.decimal (below + above) exponent
    let twice : Ratio := ⟨2 * interval.value.numerator, interval.value.denominator⟩
    some (if twice.lt sum then below else above)
  | true, false => some below
  | false, true => some above
  | false, false => none

/-- The shortest digits and their decimal exponent, for a positive magnitude. -/
def shortestDigits (significand : Nat) (exponent : Int) : Nat × Int :=
  let interval := RoundingInterval.of significand exponent
  let leading := leadingExponent interval.value
  let rec search : Nat → Int → Nat × Int
    | 0, place => (interval.value.floorOver place, place)
    | fuel + 1, place =>
      match gridPoint? interval place with
      | some digits => (digits, place)
      | none => search fuel (place - 1)
  search 17 leading

/-- Decimal text without an exponent. -/
def positional (digits : Nat) (exponent : Int) : String :=
  if 0 ≤ exponent then toString (digits * tenPow exponent.toNat)
  else
    let places := (-exponent).toNat
    let text := Nat.toDigits 10 digits
    let padded := List.replicate (places + 1 - text.length) '0' ++ text
    let (whole, fraction) := padded.splitAt (padded.length - places)
    String.ofList (whole ++ '.' :: fraction)

/-- Drops the zeros at the end of the digits. -/
def stripZeros : Nat → Nat → Int → Nat × Int
  | 0, digits, exponent => (digits, exponent)
  | fuel + 1, digits, exponent =>
    if digits ≠ 0 && digits % 10 = 0 then stripZeros fuel (digits / 10) (exponent + 1)
    else (digits, exponent)

/-- The shortest decimal text, without exponent, that reads back as the double. -/
def shortestText (x : Float) : String :=
  let sign := if isNegative x then "-" else ""
  match magnitude? x with
  | none => if x.toBits.toNat % twoPow 63 > infinityBits then "NaN" else sign ++ "inf"
  | some (0, _) => sign ++ "0"
  | some (significand, exponent) =>
    let (digits, place) := shortestDigits significand exponent
    let (digits, place) := stripZeros 20 digits place
    sign ++ positional digits place

end FareSearch.Number
