import FareSearch.Criteria.Key
import FareSearch.Proofs.Criteria.Checked
import FareSearch.Proofs.Criteria.FilterKey
import FareSearch.Proofs.Leg.Offers
import FareSearch.Search.Outcome

/-!
# What a cache key tells

The key of criteria joins nine parts with bars. Airport codes, dates, numbers and sort options
contain none, so these parts are told in any case; cabin class and airline names are free text. Two
criteria with one key can share an outcome if they have the same cabin class and their filters admit
the same records on each leg.
-/

namespace FareSearch

namespace SearchCriteria

variable {a b criteria : SearchCriteria}

/-- The parts of a key before the cabin class. -/
def tripTexts (criteria : SearchCriteria) : List String :=
  [ criteria.origin,
    criteria.destination,
    Calendar.dateText criteria.departureDate,
    FilterSet.keyPart Calendar.dateText criteria.returnDate,
    toString criteria.passengers ]

/-- The two parts of a key that are free text. -/
def freeText (criteria : SearchCriteria) : String :=
  criteria.cabinClass ++ "|" ++ criteria.filters.canonicalKey

theorem cacheKey_eq (criteria : SearchCriteria) :
    criteria.cacheKey =
      "|".intercalate (criteria.tripTexts ++
        [criteria.cabinClass, criteria.filters.canonicalKey, criteria.sort.field.name,
          criteria.sort.order.name]) :=
  rfl

theorem bar_not_mem_tripTexts (h : criteria.Checked) :
    ∀ text ∈ criteria.tripTexts, '|' ∉ text.toList := by
  have hupper {text : String} (hall : ∀ c ∈ text.toList, Text.isAsciiUpper c = true) :
      '|' ∉ text.toList := by
    intro hmem
    exact absurd (hall '|' hmem) (by decide)
  have hdate (date : Date) : '|' ∉ (Calendar.dateText date).toList :=
    (Calendar.isNumeral_dateText date).lacks rfl
  obtain ⟨horigin, hdestination⟩ := h.isAsciiUpper
  simp only [tripTexts, List.forall_mem_cons]
  exact ⟨hupper horigin, hupper hdestination, hdate _, FilterSet.keyPart_lacks hdate _,
    (FilterSet.isNumeral_toString_nat _).lacks rfl, List.forall_mem_nil _⟩

theorem bar_not_mem_fieldName (field : SortField) : '|' ∉ field.name.toList := by
  cases field <;> decide

theorem bar_not_mem_orderName (order : SortOrder) : '|' ∉ order.name.toList := by
  cases order <;> decide

theorem sort_eq_of_names {left right : SortSpec} (hfield : left.field.name = right.field.name)
    (horder : left.order.name = right.order.name) : left = right := by
  obtain ⟨field, order⟩ := left
  obtain ⟨field', order'⟩ := right
  have hfields : ∀ x y : SortField, x.name = y.name → x = y := by
    intro x y
    cases x <;> cases y <;> decide
  have horders : ∀ x y : SortOrder, x.name = y.name → x = y := by
    intro x y
    cases x <;> cases y <;> decide
  rw [hfields field field' hfield, horders order order' horder]

/-- The bars of the key separate what is not free text. -/
theorem parts_of_cacheKey_eq (ha : a.Checked) (hb : b.Checked) (h : a.cacheKey = b.cacheKey) :
    a.tripTexts = b.tripTexts ∧ a.sort = b.sort ∧ a.freeText = b.freeText := by
  rw [cacheKey_eq, cacheKey_eq] at h
  obtain ⟨htrip, hrest⟩ := Text.intercalate_append_inj (c := '|') rfl (bar_not_mem_tripTexts ha)
    (bar_not_mem_tripTexts hb) (by simp) (by simp) rfl h
  simp only [String.intercalate_cons_cons, String.intercalate_singleton] at hrest
  have hjoined : a.freeText ++ "|" ++ a.sort.field.name ++ "|" ++ a.sort.order.name =
      b.freeText ++ "|" ++ b.sort.field.name ++ "|" ++ b.sort.order.name := by
    simpa only [freeText, String.append_assoc] using hrest
  obtain ⟨hfieldRest, horder⟩ := Text.cut_last (c := '|') rfl (bar_not_mem_orderName _)
    (bar_not_mem_orderName _) hjoined
  obtain ⟨hfree, hfield⟩ := Text.cut_last (c := '|') rfl (bar_not_mem_fieldName _)
    (bar_not_mem_fieldName _) hfieldRest
  exact ⟨htrip, sort_eq_of_names hfield horder, hfree⟩

/-- What the trip of criteria is, told by their key. -/
theorem trip_eq_of_tripTexts_eq (h : a.tripTexts = b.tripTexts) :
    a.origin = b.origin ∧ a.destination = b.destination ∧ a.departureDate = b.departureDate ∧
      a.returnDate = b.returnDate ∧ a.passengers = b.passengers := by
  simp only [tripTexts, List.cons.injEq, and_true] at h
  obtain ⟨horigin, hdestination, hdeparture, hreturn, hpassengers⟩ := h
  have hdates := FilterSet.map_eq_of_keyPart_eq id Calendar.dateText_ne_empty
    (fun _ _ htext ↦ Calendar.dateText_inj htext) hreturn
  rw [Option.map_id, id_eq, id_eq] at hdates
  exact ⟨horigin, hdestination, Calendar.dateText_inj hdeparture, hdates,
    Nat.repr_injective hpassengers⟩

/-- Criteria that can share an outcome: they are repeated alike, ask alike, get the same offers for
the same records on each leg, and the same outcome for the same answers. -/
structure Interchangeable (a b : SearchCriteria) : Prop where
  echo : a.echo = b.echo
  outbound : a.outboundRequest = b.outboundRequest
  inbound : a.returnRequest? = b.returnRequest?
  offers : ∀ weights records,
    a.outboundRequest.leg.offers a.filters weights a.sort records =
      b.outboundRequest.leg.offers b.filters weights b.sort records
  returnOffers : ∀ request, a.returnRequest? = some request → ∀ weights records,
    request.leg.offers (a.filters.reanchoredOn request.date) weights a.sort records =
      request.leg.offers (b.filters.reanchoredOn request.date) weights b.sort records
  outcome : ∀ weights names outbound inbound elapsedMillis,
    SearchOutcome.assemble a names (a.outboundResult weights outbound)
        (a.returnRequest?.map (a.returnResult · weights inbound)) elapsedMillis =
      SearchOutcome.assemble b names (b.outboundResult weights outbound)
        (b.returnRequest?.map (b.returnResult · weights inbound)) elapsedMillis

end SearchCriteria

/-- Filters that admit the same records to a leg. -/
def Leg.AdmitsAlike (leg : Leg) (left right : FilterSet) : Prop :=
  ∀ record, leg.Admits left record ↔ leg.Admits right record

namespace Leg

variable {leg : Leg} {left right : FilterSet}

theorem AdmitsAlike.offers_eq (h : leg.AdmitsAlike left right) (weights : BestValue)
    (sort : SortSpec) (records : List Flight) :
    leg.offers left weights sort records = leg.offers right weights sort records := by
  have heligible : leg.eligible left (records.map Flight.normalizeDuration) =
      leg.eligible right (records.map Flight.normalizeDuration) := by
    apply List.filter_congr
    intro flight hflight
    obtain ⟨record, -, rfl⟩ := List.mem_map.mp hflight
    rw [Bool.eq_iff_iff, Bool.and_eq_true, Bool.and_eq_true]
    exact h record
  rw [offers, offers, heligible]

/-- The offers for one record tell whether it is admitted. -/
theorem admitsAlike_of_offers_eq (weights : BestValue) (sort : SortSpec)
    (h : ∀ records, leg.offers left weights sort records = leg.offers right weights sort records) :
    leg.AdmitsAlike left right := by
  intro record
  have hadmits (filters : FilterSet) : leg.Admits filters record ↔
      record.dedupKey ∈ (leg.offers filters weights sort [record]).map Flight.dedupKey := by
    rw [mem_offers_keys]
    simp
  rw [hadmits, hadmits, h]

theorem admitsAlike_of_alike (h : left.Alike right) : leg.AdmitsAlike left right := by
  intro record
  rw [Admits, Admits, h.accepts_eq]

end Leg

namespace SearchCriteria

variable {a b : SearchCriteria}

/-- Criteria whose free text lacks the bar. -/
def LacksBar (criteria : SearchCriteria) : Prop :=
  '|' ∉ criteria.cabinClass.toList ∧
    ∀ name ∈ criteria.filters.normalizedAirlines, '|' ∉ name.toList

instance (criteria : SearchCriteria) : Decidable (LacksBar criteria) :=
  have : Decidable (∀ name ∈ criteria.filters.normalizedAirlines, '|' ∉ name.toList) :=
    List.decidableBAll (fun name : String ↦ '|' ∉ name.toList) _
  instDecidableAnd

theorem interchangeable_of_admitsAlike (ha : a.Checked) (hb : b.Checked)
    (hkey : a.cacheKey = b.cacheKey) (hcabin : a.cabinClass = b.cabinClass)
    (hadmits : a.outboundRequest.leg.AdmitsAlike a.filters b.filters)
    (hreturn : ∀ request, a.returnRequest? = some request →
      request.leg.AdmitsAlike (a.filters.reanchoredOn request.date)
        (b.filters.reanchoredOn request.date)) : Interchangeable a b := by
  obtain ⟨htrip, hsort, -⟩ := parts_of_cacheKey_eq ha hb hkey
  obtain ⟨horigin, hdestination, hdeparture, hback, hpassengers⟩ := trip_eq_of_tripTexts_eq htrip
  have hecho : a.echo = b.echo := by
    rw [echo, echo, horigin, hdestination, hdeparture, hback, hpassengers, hcabin]
  have houtbound : a.outboundRequest = b.outboundRequest := by
    rw [outboundRequest, outboundRequest, horigin, hdestination, hdeparture, hpassengers, hcabin]
  have hinbound : a.returnRequest? = b.returnRequest? := by
    rw [returnRequest?, returnRequest?, horigin, hdestination, hback, hpassengers, hcabin]
  have hoffers (weights : BestValue) (records : List Flight) :
      a.outboundRequest.leg.offers a.filters weights a.sort records =
        b.outboundRequest.leg.offers b.filters weights b.sort records := by
    rw [← houtbound, ← hsort]
    exact hadmits.offers_eq weights a.sort records
  have hreturnOffers (request : SearchRequest) (hrequest : a.returnRequest? = some request)
      (weights : BestValue) (records : List Flight) :
      request.leg.offers (a.filters.reanchoredOn request.date) weights a.sort records =
        request.leg.offers (b.filters.reanchoredOn request.date) weights b.sort records := by
    rw [← hsort]
    exact (hreturn request hrequest).offers_eq weights a.sort records
  refine ⟨hecho, houtbound, hinbound, hoffers, hreturnOffers, ?_⟩
  intro weights names outbound inbound elapsedMillis
  have hresult : a.outboundResult weights outbound = b.outboundResult weights outbound := by
    rw [outboundResult, outboundResult, LegResult.of, LegResult.of, hoffers]
  have hback : a.returnRequest?.map (a.returnResult · weights inbound) =
      a.returnRequest?.map (b.returnResult · weights inbound) := by
    apply Option.map_congr
    intro request hrequest
    rw [returnResult, returnResult, LegResult.of, LegResult.of, hreturnOffers request hrequest]
  rw [SearchOutcome.assemble, SearchOutcome.assemble, hecho, hresult, hback, hinbound]

/-- The sort options do not matter for which records are admitted. -/
theorem Interchangeable.admitsAlike (h : Interchangeable a b) (hsort : a.sort = b.sort) :
    a.outboundRequest.leg.AdmitsAlike a.filters b.filters ∧
      ∀ request, a.returnRequest? = some request →
        request.leg.AdmitsAlike (a.filters.reanchoredOn request.date)
          (b.filters.reanchoredOn request.date) := by
  constructor
  · apply Leg.admitsAlike_of_offers_eq .standard a.sort
    intro records
    rw [h.offers, h.outbound, hsort]
  · intro request hrequest
    apply Leg.admitsAlike_of_offers_eq .standard a.sort
    intro records
    rw [h.returnOffers request hrequest, hsort]

/-- Criteria with one key can share an outcome just when they have one cabin class and their filters
admit the same records to each leg. It is enough that the free text of both lacks the bar and that
the key leaves the same part of the time bounds unwritten. -/
theorem interchangeable_iff_of_cacheKey_eq (ha : a.Checked) (hb : b.Checked)
    (hkey : a.cacheKey = b.cacheKey) :
    (Interchangeable a b ↔
      a.cabinClass = b.cabinClass ∧
      a.outboundRequest.leg.AdmitsAlike a.filters b.filters ∧
      ∀ request, a.returnRequest? = some request →
        request.leg.AdmitsAlike (a.filters.reanchoredOn request.date)
          (b.filters.reanchoredOn request.date)) ∧
    (LacksBar a → LacksBar b →
      a.filters.windows.map (·.map Timestamp.unwritten) =
        b.filters.windows.map (·.map Timestamp.unwritten) → Interchangeable a b) := by
  obtain ⟨-, hsort, hfree⟩ := parts_of_cacheKey_eq ha hb hkey
  constructor
  · constructor
    · intro h
      exact ⟨congrArg CriteriaEcho.cabinClass h.echo, h.admitsAlike hsort⟩
    · rintro ⟨hcabin, hadmits, hreturn⟩
      exact interchangeable_of_admitsAlike ha hb hkey hcabin hadmits hreturn
  · rintro ⟨hacabin, hanames⟩ ⟨hbcabin, hbnames⟩ hunwritten
    obtain ⟨hcabin, hfilters⟩ := Text.cut_first (c := '|') rfl hacabin hbcabin hfree
    have halike := FilterSet.alike_of_canonicalKey_eq hfilters hanames hbnames hunwritten
    apply interchangeable_of_admitsAlike ha hb hkey hcabin (Leg.admitsAlike_of_alike halike)
    intro request _
    exact Leg.admitsAlike_of_alike (halike.reanchoredOn request.date)

/-- A one-way trip under filters, in economy class if no class is given. -/
def trip (filters : FilterSet) (cabinClass : Option String := none) : SearchCriteria where
  origin := "CGK"
  destination := "DPS"
  departureDate := travelDay
  returnDate := none
  passengers := 1
  cabinClass := cabinClassOf cabinClass
  filters
  sort := {}

theorem checked_trip {filters : FilterSet} {cabinClass : Option String}
    (h : filters.conflict? = none) : (trip filters cabinClass).Checked := by
  refine ⟨⟨"cgk", "dps", travelDay, none, 1, cabinClass, filters, {}⟩, ?_⟩
  have horigin : airportCode "cgk" = .ok "CGK" := by decide +kernel
  have hdestination : airportCode "dps" = .ok "DPS" := by decide +kernel
  have hvalid : filters.validate = .ok () := by rw [FilterSet.validate, h]
  simp only [CriteriaDraft.build, horigin, hdestination, CriteriaDraft.checkDates, hvalid]
  rfl

/-- One airline, and no price above a limit. -/
def airlineBelow (name : String) (limit : Amount) : FilterSet where
  maxPrice := some limit
  airlines := [name]

def garudaPadded : FilterSet :=
  airlineBelow " GA " highPrice

def garudaPlain : FilterSet :=
  airlineBelow "ga" ⟨false, 150000000, 2, by decide, by decide⟩

theorem interchangeable_of_garuda :
    trip garudaPadded ≠ trip garudaPlain ∧
      Interchangeable (trip garudaPadded) (trip garudaPlain) := by
  constructor
  · intro h
    have hnames := congrArg (·.filters.airlines) h
    revert hnames
    decide
  · have hkey : (trip garudaPadded).cacheKey = (trip garudaPlain).cacheKey := by decide +kernel
    apply (interchangeable_iff_of_cacheKey_eq (checked_trip rfl) (checked_trip rfl) hkey).2
    · decide +kernel
    · decide +kernel
    · rfl

/-- Filters on nothing but airlines. -/
def onlyAirlines (names : List String) : FilterSet where
  airlines := names

/-- No departure before eight in the morning and a fraction of a second. -/
def fromEight (nano : ℕ) : FilterSet where
  departAfter := some ⟨travelDay, ⟨28800, nano⟩, 25200⟩

/-- One key stands for two airlines and for one with a bar in its name, for two classes when one has
a bar in its name, and for two bounds within one second. -/
theorem not_interchangeable_of_key :
    (∃ a b : SearchCriteria, a.Checked ∧ b.Checked ∧ a.cacheKey = b.cacheKey ∧ a.echo = b.echo ∧
      a.filters.windows.map (·.map Timestamp.unwritten) =
        b.filters.windows.map (·.map Timestamp.unwritten) ∧ ¬Interchangeable a b) ∧
    (∃ a b : SearchCriteria, a.Checked ∧ b.Checked ∧ a.cacheKey = b.cacheKey ∧ a.echo ≠ b.echo) ∧
    ∃ a b : SearchCriteria, a.Checked ∧ b.Checked ∧ a.cacheKey = b.cacheKey ∧ a.echo = b.echo ∧
      LacksBar a ∧ LacksBar b ∧ ¬Interchangeable a b := by
  have hadmits (left right : FilterSet) (h : Interchangeable (trip left) (trip right)) :
      (trip left).outboundRequest.leg.AdmitsAlike left right :=
    (h.admitsAlike rfl).1
  refine ⟨?barInAirline, ?barInClass, ?fraction⟩
  case barInAirline =>
    refine ⟨trip (onlyAirlines ["GA|Garuda Indonesia"]),
      trip (onlyAirlines ["GA", "Garuda Indonesia"]), checked_trip rfl, checked_trip rfl,
      by decide +kernel, rfl, rfl, ?_⟩
    intro h
    have hrecord := hadmits _ _ h (morningFlight "Garuda" .zero)
    revert hrecord
    decide +kernel
  case barInClass =>
    refine ⟨trip (onlyAirlines ["!", ",,,,,,,,,,"]), trip (onlyAirlines []) "economy|,,,,,,,,,,!",
      checked_trip rfl, checked_trip rfl, by decide +kernel, ?_⟩
    intro h
    have hcabin := congrArg CriteriaEcho.cabinClass h
    revert hcabin
    decide +kernel
  case fraction =>
    refine ⟨trip (fromEight 500000000), trip (fromEight 0), checked_trip rfl, checked_trip rfl,
      by decide +kernel, rfl, by decide +kernel, by decide +kernel, ?_⟩
    intro h
    have hrecord := hadmits _ _ h (morningFlight "Garuda" .zero)
    revert hrecord
    decide +kernel

end SearchCriteria

end FareSearch
