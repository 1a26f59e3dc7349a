import FareSearch.Number.Binary64

/-!
# Amounts of money

An amount is a sign and a whole magnitude below 2^96 over a power of ten of at most 28. The number
of places is kept, so `10.50` and `10.5` are different amounts of equal value; so are zero and
the negative zero that rounding can leave. Every comparison is by value.
-/

namespace FareSearch

/-- `magnitude / 10 ^ scale` with a sign, and with the number of decimal places it was written
with. -/
@[ext]
structure Amount where
  negative : Bool
  magnitude : Nat
  scale : Nat
  magnitude_lt : magnitude < Number.twoPow 96 := by decide
  scale_le : scale ≤ 28 := by decide
  deriving DecidableEq

namespace Amount

def zero : Amount :=
  ⟨false, 0, 0, by decide, by decide⟩

instance : Inhabited Amount :=
  ⟨zero⟩

/-- The amount with a sign, a magnitude and a scale, if they are within the limits. -/
def of? (negative : Bool) (magnitude scale : Nat) : Option Amount :=
  if h : magnitude < Number.twoPow 96 ∧ scale ≤ 28 then
    some ⟨negative, magnitude, scale, h.1, h.2⟩
  else none

/-- The magnitude with its sign. -/
def coefficient (amount : Amount) : Int :=
  if amount.negative then -(Int.ofNat amount.magnitude) else amount.magnitude

/-- The coefficient over the common denominator of two amounts, once for each. -/
def aligned (left right : Amount) : Int × Int :=
  (left.coefficient * Number.tenPow right.scale, right.coefficient * Number.tenPow left.scale)

/-- Order by value. -/
def lt (left right : Amount) : Bool :=
  (aligned left right).1 < (aligned left right).2

def le (left right : Amount) : Bool :=
  (aligned left right).1 ≤ (aligned left right).2

/-- Equality by value. -/
def sameValue (left right : Amount) : Bool :=
  (aligned left right).1 == (aligned left right).2

/-- Digits with a point before the last `scale` of them. -/
def digitsText (magnitude scale : Nat) : List Char :=
  let digits := Nat.toDigits 10 magnitude
  if scale = 0 then digits
  else
    let padded := List.replicate (scale + 1 - digits.length) '0' ++ digits
    let (whole, fraction) := padded.splitAt (padded.length - scale)
    whole ++ '.' :: fraction

/-- The text of an amount, with its sign and all of its places. -/
def text (amount : Amount) : String :=
  let digits := String.ofList (digitsText amount.magnitude amount.scale)
  if amount.negative then "-" ++ digits else digits

/-- Takes zeros off the end of a magnitude, at most as many as there are places. -/
def stripZeros (magnitude : Nat) : Nat → Nat × Nat
  | 0 => (magnitude, 0)
  | scale + 1 =>
    if magnitude % 10 = 0 then stripZeros (magnitude / 10) scale
    else (magnitude, scale + 1)

theorem stripZeros_bounds (magnitude scale : Nat) :
    (stripZeros magnitude scale).1 ≤ magnitude ∧ (stripZeros magnitude scale).2 ≤ scale := by
  induction scale generalizing magnitude with
  | zero => simp [stripZeros]
  | succ scale ih =>
    unfold stripZeros
    split
    · have := ih (magnitude / 10)
      omega
    · simp

/-- The amount of the same value with the fewest places; zero loses its sign. -/
def normalize (amount : Amount) : Amount :=
  let stripped := stripZeros amount.magnitude amount.scale
  have bounds := stripZeros_bounds amount.magnitude amount.scale
  ⟨amount.negative && stripped.1 ≠ 0, stripped.1, stripped.2,
    Nat.lt_of_le_of_lt bounds.1 amount.magnitude_lt, Nat.le_trans bounds.2 amount.scale_le⟩

/-- The whole number nearest to the magnitude of an amount; a half goes to the even neighbour. -/
def roundedMagnitude (amount : Amount) : Nat :=
  Number.roundHalfEven amount.magnitude (Number.tenPow amount.scale)

/-- The magnitude as a double. An amount with places is computed from its whole part and its
fraction and rounded back to its places, in double arithmetic. -/
def magnitudeToFloat (amount : Amount) : Float :=
  if amount.scale = 0 then Number.ofNat amount.magnitude
  else
    let precision := Number.tenPow amount.scale
    let whole := Number.ofNat (amount.magnitude / precision)
    let fraction := Number.ofNat (amount.magnitude % precision) / Number.ofNat precision
    if fraction == 0 then whole
    else
      let unit := Number.tenTo amount.scale
      ((whole + fraction) * unit).round / unit

def toFloat (amount : Amount) : Float :=
  if amount.negative then -amount.magnitudeToFloat else amount.magnitudeToFloat

end Amount

end FareSearch
