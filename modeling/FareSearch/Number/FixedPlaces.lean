import FareSearch.Number.Binary64

/-!
# Fixed decimal places of a double

The exact binary value, rounded to a number of decimal places; a half goes to the even neighbour.
-/

namespace FareSearch.Number

/-- The whole number nearest to `significand * 2 ^ exponent * 10 ^ places`. -/
def scaledToPlaces (significand : Nat) (exponent : Int) (places : Nat) : Nat :=
  if 0 ≤ exponent then (significand <<< exponent.toNat) * tenPow places
  else roundHalfEven (significand * tenPow places) (1 <<< (-exponent).toNat)

/-- A double with exactly `places` decimal places, `places` being positive. -/
def fixedPlaces (places : Nat) (x : Float) : String :=
  let sign := if isNegative x then "-" else ""
  match magnitude? x with
  | none => if x.toBits.toNat % twoPow 63 > infinityBits then "NaN" else sign ++ "inf"
  | some (significand, exponent) =>
    let digits := Nat.toDigits 10 (scaledToPlaces significand exponent places)
    let padded := List.replicate (places + 1 - digits.length) '0' ++ digits
    let (whole, fraction) := padded.splitAt (padded.length - places)
    sign ++ String.ofList (whole ++ '.' :: fraction)

end FareSearch.Number
