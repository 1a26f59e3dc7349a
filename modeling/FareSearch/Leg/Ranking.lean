import FareSearch.Criteria.Sort
import FareSearch.Flight.Basic

/-!
# Scoring and ordering

The best-value score weighs price and duration, each measured from the least to the greatest value
of the leg; where all values are equal, the range counts as one. The rule is stated for any number
type in which amounts and minutes can be read, and used with doubles. Ordering is stable in both
directions.
-/

namespace FareSearch

/-- The weights of price and duration in a score. -/
structure Weights (R : Type) where
  price : R
  duration : R

section Score

variable {R : Type} [Add R] [Sub R] [Mul R] [Div R] [Zero R] [One R] [LT R] [DecidableLT R]

/-- The least and the greatest of a first value and others. -/
def bounds (first : R) (others : List R) : R × R :=
  others.foldl
    (fun (least, greatest) value ↦
      (if value < least then value else least, if greatest < value then value else greatest))
    (first, first)

/-- A range to divide by: itself if it is positive, otherwise one. -/
def divisor (range : R) : R :=
  if 0 < range then range else 1

/-- Scores of pairs of price and duration, in their order. -/
def scores (weights : Weights R) (values : List (R × R)) : List R :=
  match values with
  | [] => []
  | (price, duration) :: rest =>
    let (leastPrice, greatestPrice) := bounds price (rest.map (·.1))
    let (leastDuration, greatestDuration) := bounds duration (rest.map (·.2))
    let priceRange := divisor (greatestPrice - leastPrice)
    let durationRange := divisor (greatestDuration - leastDuration)
    values.map fun (price, duration) ↦
      weights.price * ((price - leastPrice) / priceRange) +
        weights.duration * ((duration - leastDuration) / durationRange)

/-- The price and the duration of a flight, read as numbers. -/
def Flight.measures (ofAmount : Amount → R) (ofMinutes : Int → R) (flight : Flight) : R × R :=
  (ofAmount flight.price.amount, ofMinutes flight.durationMinutes)

/-- Scores of the flights of a leg, in their order. -/
def flightScores (ofAmount : Amount → R) (ofMinutes : Int → R) (weights : Weights R)
    (flights : List Flight) : List R :=
  scores weights (flights.map (Flight.measures ofAmount ofMinutes))

end Score

/-- Weighted price and duration in double arithmetic. -/
abbrev BestValue := Weights Float

instance zeroFloat : Zero Float :=
  ⟨0.0⟩

instance oneFloat : One Float :=
  ⟨1.0⟩

namespace BestValue

/-- Six tenths for the price and four for the duration. -/
def standard : BestValue :=
  ⟨0.6, 0.4⟩

def name : String :=
  "BestValue"

/-- Writes its score into every flight of a leg. -/
def score (weights : BestValue) (flights : List Flight) : List Flight :=
  List.zipWith (fun flight value ↦ { flight with bestValueScore := value }) flights
    (flightScores Amount.toFloat Number.ofInt weights flights)

end BestValue

namespace SortField

/-- Order of two timestamps in which a missing one comes first. -/
def timeLe : Option Timestamp → Option Timestamp → Bool
  | none, _ => true
  | some _, none => false
  | some left, some right => left.le right

/-- Whether one flight may stand before another in ascending order. -/
def le (field : SortField) (left right : Flight) : Bool :=
  match field with
  | .price => left.price.amount.le right.price.amount
  | .duration => left.durationMinutes ≤ right.durationMinutes
  | .departure => timeLe left.departsAt right.departsAt
  | .arrival => timeLe left.arrivesAt right.arrivesAt
  | .bestValue => Number.orderKey left.bestValueScore ≤ Number.orderKey right.bestValueScore

end SortField

/-- Whether one flight may stand before another in the requested order. -/
def SortSpec.le (spec : SortSpec) (left right : Flight) : Bool :=
  match spec.order with
  | .ascending => spec.field.le left right
  | .descending => spec.field.le right left

/-- Flights in the requested order; flights that compare equal keep theirs. -/
def sortFlights (spec : SortSpec) (flights : List Flight) : List Flight :=
  flights.mergeSort spec.le

end FareSearch
