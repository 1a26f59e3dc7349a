import FareSearch.Number.Reader
import FareSearch.Text.Lowercase

/-!
# Reading real numbers

Text of a real number as the nearest double: an optional sign, digits with at most one point, an
optional exponent, or the words for infinity and for no number.
-/

namespace FareSearch.Number

/-- The double nearest to `significand * 10 ^ exponent`. Far outside of the range of doubles the
power of ten is not computed. -/
def scaledByTen (significand : Nat) (exponent : Int) : Float :=
  let magnitude : Int := Int.ofNat (Nat.toDigits 10 significand).length + exponent
  if significand = 0 || magnitude < -400 then ofNat 0
  else if 400 < magnitude then Float.ofBits (UInt64.ofNat infinityBits)
  else if 0 ≤ exponent then ofRatio (significand * tenPow exponent.toNat) 1
  else ofRatio significand (tenPow (-exponent).toNat)

/-- The exponent after its mark, or none where nothing follows. -/
def exponent? : List Char → Option Int
  | [] => some 0
  | 'e' :: rest => signed? rest
  | 'E' :: rest => signed? rest
  | _ => none

/-- A real number without its sign. -/
def magnitudeText? (chars : List Char) : Option Float :=
  let word := chars.map Text.asciiLowerChar
  if word == "inf".toList || word == "infinity".toList then
    some (Float.ofBits (UInt64.ofNat infinityBits))
  else if word == "nan".toList then some (Float.ofBits 0x7FF8000000000000)
  else
    let whole := chars.takeWhile isDigit
    let rest := chars.dropWhile isDigit
    let (fraction, rest) := match rest with
      | '.' :: rest => (rest.takeWhile isDigit, rest.dropWhile isDigit)
      | _ => ([], rest)
    if whole.isEmpty && fraction.isEmpty then none
    else
      (exponent? rest).map fun exponent ↦
        scaledByTen (ofDigits (whole ++ fraction)) (exponent - Int.ofNat fraction.length)

/-- A real number with an optional sign. -/
def real? (chars : List Char) : Option Float :=
  match chars with
  | '-' :: rest => (magnitudeText? rest).map fun value ↦ -value
  | '+' :: rest => magnitudeText? rest
  | _ => magnitudeText? chars

end FareSearch.Number
