import FareSearch.Proofs.Criteria.Accepted
import FareSearch.Proofs.Criteria.Key
import FareSearch.Proofs.Leg.Durations

/-!
# Records that differ in letter case

Filters disregard the letter case of an airline by the full rule, a leg that of airports and cabin
class for the letters from `A` to `Z` only. So filters accept records that differ in letter case
alike, and the legs contain them alike just if they differ in those letters only. A cabin class of
criteria is found in a record just if the small letters of the record need no other rule.
-/

namespace FareSearch

/-- Text of the first 128 characters. -/
def Text.IsAscii (text : String) : Prop :=
  ∀ c ∈ text.toList, c.toNat < 128

instance (text : String) : Decidable (Text.IsAscii text) :=
  List.decidableBAll (fun c : Char ↦ c.toNat < 128) _

namespace Flight

variable {left right flight : Flight}

/-- The texts by which a leg knows its flights. -/
def legTexts (flight : Flight) : List String :=
  [flight.departure.airport, flight.arrival.airport, flight.cabinClass]

/-- Records that are equal but for the letter case of airports, cabin class and airline. -/
structure SameButCase (left right : Flight) : Prop where
  origin : Text.lowercase left.departure.airport = Text.lowercase right.departure.airport
  destination : Text.lowercase left.arrival.airport = Text.lowercase right.arrival.airport
  cabinClass : Text.lowercase left.cabinClass = Text.lowercase right.cabinClass
  airlineName : Text.lowercase left.airline.name = Text.lowercase right.airline.name
  airlineCode : Text.lowercase left.airline.code = Text.lowercase right.airline.code
  others : { left with
    departure := { left.departure with airport := right.departure.airport }
    arrival := { left.arrival with airport := right.arrival.airport }
    cabinClass := right.cabinClass
    airline := right.airline } = right

namespace SameButCase

theorem departsAt (h : left.SameButCase right) : left.departsAt = right.departsAt := by
  rw [← h.others]
  rfl

theorem arrivesAt (h : left.SameButCase right) : left.arrivesAt = right.arrivesAt := by
  rw [← h.others]
  rfl

theorem hasValidSchedule (h : left.SameButCase right) :
    left.hasValidSchedule = right.hasValidSchedule := by
  rw [← h.others]
  rfl

/-- Filters accept a record in whatever letter case. -/
theorem accepts_eq (h : left.SameButCase right) (filters : FilterSet) :
    filters.accepts left = filters.accepts right := by
  have hbounds : left.price = right.price ∧ left.stops = right.stops ∧
      left.durationMinutes = right.durationMinutes := by
    rw [← h.others]
    exact ⟨rfl, rfl, rfl⟩
  have hairline (names : List String) : FilterSet.acceptsAirline names left.airline =
      FilterSet.acceptsAirline names right.airline := by
    rw [FilterSet.acceptsAirline, h.airlineName, h.airlineCode, FilterSet.acceptsAirline]
  rw [FilterSet.accepts, FilterSet.accepts, hbounds.1, hbounds.2.1, hbounds.2.2, hairline,
    h.departsAt, h.arrivesAt]

/-- Legs look at the letters from `A` to `Z`. -/
theorem contains_eq (h : left.SameButCase right)
    (htexts : left.legTexts.map Text.asciiLower = right.legTexts.map Text.asciiLower) (leg : Leg) :
    leg.contains left = leg.contains right := by
  obtain ⟨horigin, hdestination, hcabin, -⟩ := by
    simpa only [legTexts, List.map_cons, List.map_nil, List.cons.injEq] using htexts
  simp only [Leg.contains, Text.sameIgnoringAsciiCase, horigin, hdestination, hcabin, h.departsAt,
    h.hasValidSchedule]

end SameButCase

/-- The leg that is made of a record's own texts. -/
def ownLeg (flight : Flight) (date : Date) : Leg where
  origin := flight.departure.airport
  destination := flight.arrival.airport
  date
  cabinClass := flight.cabinClass

theorem contains_ownLeg {leaves : Timestamp} (hleaves : flight.departsAt = some leaves)
    (hschedule : flight.hasValidSchedule = true) :
    (flight.ownLeg leaves.date).contains flight = true := by
  simp [Leg.contains, ownLeg, Text.sameIgnoringAsciiCase, hleaves, hschedule]

namespace SameButCase

/-- The leg of the one record's texts tells it from the other. -/
theorem legTexts_eq (h : left.SameButCase right)
    (hcontains : ∀ leg : Leg, leg.contains left = leg.contains right)
    (hschedule : left.hasValidSchedule = true) :
    left.legTexts.map Text.asciiLower = right.legTexts.map Text.asciiLower := by
  obtain ⟨leaves, -, hleaves, -⟩ := hasValidSchedule_iff.mp hschedule
  have hright := contains_ownLeg hleaves hschedule
  rw [hcontains] at hright
  simp only [Leg.contains, ownLeg, Bool.and_eq_true, Bool.or_eq_true, Text.sameIgnoringAsciiCase,
    beq_iff_eq, String.isEmpty_iff] at hright
  obtain ⟨⟨⟨⟨horigin, hdestination⟩, -⟩, -⟩, hcabin⟩ := hright
  have hclass : Text.asciiLower right.cabinClass = Text.asciiLower left.cabinClass := by
    rcases hcabin with hempty | hsame
    · -- The leg of an empty class asks for no class, but the other record's is as empty.
      have hother : right.cabinClass = "" := by
        rw [← Text.lowercase_eq_empty_iff, ← h.cabinClass, Text.lowercase_eq_empty_iff]
        exact hempty
      rw [hempty, hother]
    · exact hsame
  simp only [legTexts, List.map_cons, List.map_nil, horigin, hdestination, hclass]

/-- Legs contain records that differ in letter case alike just if they differ in the letters from
`A` to `Z` only, or are on no leg at all. -/
theorem contains_iff (h : left.SameButCase right) :
    (∀ leg : Leg, leg.contains left = leg.contains right) ↔
      (left.hasValidSchedule = true →
        left.legTexts.map Text.asciiLower = right.legTexts.map Text.asciiLower) := by
  refine ⟨h.legTexts_eq, fun htexts leg ↦ ?_⟩
  by_cases hschedule : left.hasValidSchedule = true
  · exact h.contains_eq (htexts hschedule) leg
  · have hright : right.hasValidSchedule = false := by
      rw [← h.hasValidSchedule]
      exact Bool.eq_false_iff.mpr hschedule
    simp only [Leg.contains, Bool.eq_false_iff.mpr hschedule, hright, Bool.and_false,
      Bool.false_and]

theorem legTexts_eq_of_isAscii (h : left.SameButCase right)
    (hascii : ∀ text ∈ left.legTexts ++ right.legTexts, Text.IsAscii text) :
    left.legTexts.map Text.asciiLower = right.legTexts.map Text.asciiLower := by
  have hlower {texts : List String} (htexts : ∀ text ∈ texts, Text.IsAscii text) :
      texts.map Text.asciiLower = texts.map Text.lowercase :=
    List.map_congr_left fun text htext ↦ (Text.lowercase_of_ascii (htexts text htext)).symm
  rw [List.forall_mem_append] at hascii
  rw [hlower hascii.1, hlower hascii.2]
  simp only [legTexts, List.map_cons, List.map_nil, h.origin, h.destination, h.cabinClass]

end SameButCase

end Flight

/-- A leg in the cabin class of criteria contains a record of this class just if the small letters of
the record are those by the rule for `A` to `Z`. -/
theorem Leg.contains_iff_of_lowercase_eq {leg : Leg} {flight : Flight} {criteria : SearchCriteria}
    (hchecked : criteria.Checked) (hleg : leg.cabinClass = criteria.cabinClass)
    (hclass : Text.lowercase flight.cabinClass = criteria.cabinClass) :
    leg.contains flight = true ↔
      { leg with cabinClass := "" }.contains flight = true ∧
        Text.asciiLower flight.cabinClass = Text.lowercase flight.cabinClass := by
  have hempty : leg.cabinClass.isEmpty = false := by
    rw [hleg, Bool.eq_false_iff, Ne, String.isEmpty_iff]
    exact hchecked.wellFormed.cabinClass_ne
  have hsmall : Text.asciiLower leg.cabinClass = Text.lowercase flight.cabinClass := by
    rw [hleg, ← hclass, Text.asciiLower_lowercase]
  have hany : "".isEmpty = true := rfl
  simp only [contains, Text.sameIgnoringAsciiCase, hsmall, hempty, hany, Bool.and_eq_true,
    beq_iff_eq, Bool.false_or, Bool.true_or, and_true]

/-- Records that differ in letter case are accepted alike by filters, and by legs as far as the
letters from `A` to `Z` go; outside them a leg can contain the one and not the other. -/
theorem Flight.SameButCase.agrees {left right : Flight} (h : left.SameButCase right) :
    (∀ filters : FilterSet, filters.accepts left = filters.accepts right) ∧
    ((∀ leg : Leg, leg.contains left = leg.contains right) ↔
      (left.hasValidSchedule = true →
        left.legTexts.map Text.asciiLower = right.legTexts.map Text.asciiLower)) ∧
    ((∀ text ∈ left.legTexts ++ right.legTexts, Text.IsAscii text) →
      ∀ leg : Leg, leg.contains left = leg.contains right) ∧
    (∀ (criteria : SearchCriteria) (leg : Leg), criteria.Checked →
      leg.cabinClass = criteria.cabinClass →
      Text.lowercase left.cabinClass = criteria.cabinClass →
      (leg.contains left = true ↔
        { leg with cabinClass := "" }.contains left = true ∧
          Text.asciiLower left.cabinClass = Text.lowercase left.cabinClass)) :=
  ⟨h.accepts_eq, h.contains_iff, fun hascii ↦ h.contains_eq (h.legTexts_eq_of_isAscii hascii),
    fun _ _ hchecked hleg hclass ↦ Leg.contains_iff_of_lowercase_eq hchecked hleg hclass⟩

section Cabins

open SearchCriteria (trip checked_trip)

/-- The flight in the morning with its cabin class spelled in some way. -/
def inCabin (cabinClass : String) : Flight :=
  { morningFlight "Garuda" lowPrice with cabinClass }

theorem sameButCase_inCabin {cabinClass other : String}
    (h : Text.lowercase cabinClass = Text.lowercase other) :
    (inCabin cabinClass).SameButCase (inCabin other) where
  origin := rfl
  destination := rfl
  cabinClass := h
  airlineName := rfl
  airlineCode := rfl
  others := rfl

theorem Flight.SameButCase.agrees_economy :
    (inCabin "ECONOMY").SameButCase (inCabin "economy") ∧
    (∀ filters : FilterSet,
      filters.accepts (inCabin "ECONOMY") = filters.accepts (inCabin "economy")) ∧
    (∀ leg : Leg, leg.contains (inCabin "ECONOMY") = leg.contains (inCabin "economy")) ∧
    (trip {}).outboundRequest.leg.contains (inCabin "ECONOMY") = true := by
  have hsame : (inCabin "ECONOMY").SameButCase (inCabin "economy") :=
    sameButCase_inCabin (by decide +kernel)
  obtain ⟨hfilters, -, hlegs, hcriteria⟩ := Flight.SameButCase.agrees hsame
  have hleg := hcriteria (trip {}) (trip {}).outboundRequest.leg (checked_trip rfl) rfl
    (by decide +kernel)
  exact ⟨hsame, hfilters, hlegs (by decide +kernel), hleg.mpr (by decide +kernel)⟩

/-- The accented capital is no letter from `A` to `Z`: criteria of the cabin class find the record
in small letters only. -/
theorem leg_misses_capitals :
    (inCabin "ÉCONOMIE").SameButCase (inCabin "économie") ∧
    (trip {} (some "ÉCONOMIE")).Checked ∧
    (trip {} (some "ÉCONOMIE")).outboundRequest.leg.contains (inCabin "économie") = true ∧
    (trip {} (some "ÉCONOMIE")).outboundRequest.leg.contains (inCabin "ÉCONOMIE") = false :=
  ⟨sameButCase_inCabin (by decide +kernel), checked_trip rfl, by decide +kernel,
    by decide +kernel⟩

end Cabins

end FareSearch
