import FareSearch.Number.Powers
import FareSearch.Number.Rounding

/-!
# Double precision numbers

The exact value of a double, the double nearest to a ratio, and the total order of the bits.
Scores and the amounts they are computed from are doubles; everything that prints or reads one
goes through its exact value.
-/

namespace FareSearch.Number

/-- The bits of infinity without its sign. -/
def infinityBits : Nat :=
  0x7FF0000000000000

/-- The exponent at which `num / den` has a 53-bit whole part, but not below the least exponent of
a double. -/
def scaleOfRatio (num den : Nat) : Int :=
  let guess : Int := Int.ofNat num.log2 - Int.ofNat den.log2 - 52
  let fits := if 0 ≤ guess then den <<< (guess.toNat + 52) ≤ num
    else den <<< 52 ≤ num <<< (-guess).toNat
  max (if fits then guess else guess - 1) (-1074)

/-- The bits of the double nearest to `num / den`; a tie goes to the even significand, and what is
too large becomes infinity. -/
def bitsOfRatio (num den : Nat) : Nat :=
  if num = 0 then 0
  else
    let scale := scaleOfRatio num den
    let significand :=
      if 0 ≤ scale then roundHalfEven num (den <<< scale.toNat)
      else roundHalfEven (num <<< (-scale).toNat) den
    min ((scale + 1074).toNat <<< 52 + significand) infinityBits

/-- The double nearest to `num / den`. -/
def ofRatio (num den : Nat) : Float :=
  Float.ofBits (UInt64.ofNat (bitsOfRatio num den))

def ofNat (n : Nat) : Float :=
  ofRatio n 1

/-- The double nearest to a whole number. -/
def ofInt (n : Int) : Float :=
  if n < 0 then -(ofNat n.natAbs) else ofNat n.natAbs

/-- The power of ten as a double. -/
def tenTo (exponent : Nat) : Float :=
  ofNat (tenPow exponent)

def isNegative (x : Float) : Bool :=
  x.toBits.toNat ≥ twoPow 63

/-- The magnitude of a finite double as `significand * 2 ^ exponent`. -/
def magnitude? (x : Float) : Option (Nat × Int) :=
  let bits := x.toBits.toNat % twoPow 63
  let field := bits / twoPow 52
  let fraction := bits % twoPow 52
  if field = 2047 then none
  else if field = 0 then some (fraction, -1074)
  else some (twoPow 52 + fraction, Int.ofNat field - 1075)

/-- The place of a double in the total order of all bit patterns: negative ones by falling
magnitude, then the others by rising magnitude. -/
def orderKey (x : Float) : Int :=
  let bits := x.toBits.toNat
  if bits < twoPow 63 then bits else -(Int.ofNat (bits - twoPow 63)) - 1

/-- The bits of a double as sixteen hexadecimal digits; every double that is no number reads
`nan`. -/
def bitsText (x : Float) : String :=
  let bits := x.toBits.toNat
  if bits % twoPow 63 > infinityBits then "nan"
  else
    let digits := Nat.toDigits 16 bits
    String.ofList (List.replicate (16 - digits.length) '0' ++ digits)

end FareSearch.Number
