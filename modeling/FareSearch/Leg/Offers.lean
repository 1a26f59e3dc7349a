import FareSearch.Leg.Duplicates
import FareSearch.Leg.Eligibility
import FareSearch.Leg.Ranking

/-!
# The offers of a leg

Records of all providers become the ranked result of a leg: durations are settled, ineligible
records dropped, duplicates joined, and the rest scored and ordered.
-/

namespace FareSearch

def Leg.offers (leg : Leg) (filters : FilterSet) (weights : BestValue) (sort : SortSpec)
    (records : List Flight) : List Flight :=
  let eligible := leg.eligible filters (records.map Flight.normalizeDuration)
  sortFlights sort (weights.score (deduplicate eligible))

end FareSearch
