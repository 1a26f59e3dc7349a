import FareSearch.Criteria.Basic

/-!
# Cache keys

The text under which the result of a search is kept: the parts of the criteria between bars. An
absent return date is an empty part.
-/

namespace FareSearch

def SearchCriteria.cacheKey (criteria : SearchCriteria) : String :=
  "|".intercalate
    [ criteria.origin,
      criteria.destination,
      Calendar.dateText criteria.departureDate,
      FilterSet.keyPart Calendar.dateText criteria.returnDate,
      toString criteria.passengers,
      criteria.cabinClass,
      criteria.filters.canonicalKey,
      criteria.sort.field.name,
      criteria.sort.order.name ]

end FareSearch
