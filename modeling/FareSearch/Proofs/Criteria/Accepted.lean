import FareSearch.Proofs.Calendar.DayNumber
import FareSearch.Proofs.Criteria.ReadBack
import FareSearch.Proofs.Json.Members

/-!
# Which drafts are accepted

A draft is put to six checks in a fixed order. It is accepted just if it passes all of them, and is
then brought to one normal form; otherwise the first check that it fails says why. An object of JSON
that says the fields of a draft is accepted or refused like the draft.
-/

namespace FareSearch

section AirportCodes

variable {code : String}

/-- Three ASCII letters between white space. -/
structure IsAirportCode (code : String) : Prop where
  length : (Text.trim code).toList.length = 3
  letters : ∀ c ∈ (Text.trim code).toList, Text.isAsciiLetter c = true

theorem IsAirportCode.ascii (h : IsAirportCode code) :
    ∀ c ∈ (Text.trim code).toList, c.toNat < 128 :=
  fun c hc ↦ toNat_lt_of_isAsciiLetter (h.letters c hc)

theorem IsAirportCode.airportCode_eq (h : IsAirportCode code) :
    airportCode code = .ok (Text.asciiUpper (Text.trim code)) := by
  have hsize : (Text.trim code).utf8ByteSize = 3 := (utf8ByteSize_of_ascii h.ascii).trans h.length
  rw [airportCode, hsize, List.all_eq_true.mpr h.letters]
  rfl

/-- The bytes are counted, but of ASCII letters there are as many. -/
theorem airportCode_of_not (h : ¬IsAirportCode code) :
    airportCode code = .error (.invalidAirport code) := by
  unfold airportCode
  dsimp only
  split
  next hcode =>
    rw [Bool.and_eq_true, decide_eq_true_eq, List.all_eq_true] at hcode
    have hascii : ∀ c ∈ (Text.trim code).toList, c.toNat < 128 := fun c hc ↦
      toNat_lt_of_isAsciiLetter (hcode.2 c hc)
    exact absurd ⟨(utf8ByteSize_of_ascii hascii).symm.trans hcode.1, hcode.2⟩ h
  next => rfl

/-- The two ways to disregard letter case agree on codes. -/
theorem IsAirportCode.asciiUpper_eq_iff {other : String} (h : IsAirportCode code)
    (hother : IsAirportCode other) :
    Text.asciiUpper (Text.trim code) = Text.asciiUpper (Text.trim other) ↔
      Text.lowercase (Text.trim code) = Text.lowercase (Text.trim other) := by
  rw [Text.lowercase_of_ascii h.ascii, Text.lowercase_of_ascii hother.ascii,
    Text.asciiUpper_eq_iff]

end AirportCodes

/-- The checks of a draft, in their order. -/
inductive CriteriaCheck where
  | origin
  | destination
  | difference
  | passengers
  | dates
  | filters

namespace CriteriaDraft

variable {draft : CriteriaDraft}

/-- What a check asks for. -/
def Passes (draft : CriteriaDraft) : CriteriaCheck → Prop
  | .origin => IsAirportCode draft.origin
  | .destination => IsAirportCode draft.destination
  | .difference =>
    Text.lowercase (Text.trim draft.origin) ≠ Text.lowercase (Text.trim draft.destination)
  | .passengers => 1 ≤ draft.passengers
  | .dates => ∀ back ∈ draft.returnDate, draft.departureDate.number ≤ back.number
  | .filters => draft.filters.validate = .ok ()

/-- What a check says of a draft that fails it. -/
def Refuses (draft : CriteriaDraft) : CriteriaCheck → CriteriaError → Prop
  | .origin, error => error = .invalidAirport draft.origin
  | .destination, error => error = .invalidAirport draft.destination
  | .difference, error => error = .sameAirport (Text.asciiUpper (Text.trim draft.origin))
  | .passengers, error => error = .invalidPassengers draft.passengers
  | .dates, error =>
    ∃ back ∈ draft.returnDate, error = .returnBeforeDeparture draft.departureDate back
  | .filters, error => draft.filters.validate = .error error

/-- The first check that a draft fails. -/
structure FailsFirst (draft : CriteriaDraft) (check : CriteriaCheck) : Prop where
  fails : ¬draft.Passes check
  passes : ∀ earlier : CriteriaCheck, earlier.ctorIdx < check.ctorIdx → draft.Passes earlier

/-- The criteria that a draft asks for. -/
def normalForm (draft : CriteriaDraft) : SearchCriteria where
  origin := Text.asciiUpper (Text.trim draft.origin)
  destination := Text.asciiUpper (Text.trim draft.destination)
  departureDate := draft.departureDate
  returnDate := draft.returnDate
  passengers := draft.passengers
  cabinClass := cabinClassOf draft.cabinClass
  filters := draft.filters
  sort := draft.sort

section Checks

theorem checkDates_of_passes (h : draft.Passes .dates) : draft.checkDates = .ok () := by
  unfold checkDates
  cases hback : draft.returnDate with
  | none => rfl
  | some back =>
    have hnot : back.before draft.departureDate = false := by
      rw [Bool.eq_false_iff, Ne, Date.before_iff, not_lt]
      exact h back hback
    simp only [hnot, Bool.false_eq_true, if_false]

theorem checkDates_of_fails (h : ¬draft.Passes .dates) :
    ∃ error, draft.checkDates = .error error ∧ draft.Refuses .dates error := by
  simp only [Passes, not_forall, not_le] at h
  obtain ⟨back, hback, hbefore⟩ := h
  refine ⟨_, ?_, back, hback, rfl⟩
  unfold checkDates
  rw [Option.mem_def.mp hback]
  simp only [Date.before_iff.mpr hbefore, if_true]

theorem validate_of_fails (h : ¬draft.Passes .filters) :
    ∃ error, draft.filters.validate = .error error := by
  cases hvalidate : draft.filters.validate with
  | ok => exact absurd hvalidate h
  | error error => exact ⟨error, rfl⟩

/-- Codes that pass are compared as capitals. -/
theorem difference_iff (horigin : draft.Passes .origin) (hdestination : draft.Passes .destination) :
    draft.Passes .difference ↔ draft.normalForm.origin ≠ draft.normalForm.destination :=
  not_congr (horigin.asciiUpper_eq_iff hdestination).symm

/-- The checks after the codes. -/
theorem build_of_codes (horigin : draft.Passes .origin) (hdestination : draft.Passes .destination) :
    draft.build =
      (do
        if draft.normalForm.origin = draft.normalForm.destination then
          throw (.sameAirport draft.normalForm.origin)
        if draft.passengers = 0 then throw (.invalidPassengers draft.passengers)
        draft.checkDates
        draft.filters.validate
        return draft.normalForm) := by
  unfold build
  rw [IsAirportCode.airportCode_eq horigin, IsAirportCode.airportCode_eq hdestination]
  rfl

/-- The checks after the route. -/
theorem build_of_route
    (h : ∀ earlier : CriteriaCheck, earlier.ctorIdx < CriteriaCheck.passengers.ctorIdx →
      draft.Passes earlier) :
    draft.build =
      (do
        if draft.passengers = 0 then throw (.invalidPassengers draft.passengers)
        draft.checkDates
        draft.filters.validate
        return draft.normalForm) := by
  have horigin := h .origin (by decide)
  have hdestination := h .destination (by decide)
  have hdiffer := (difference_iff horigin hdestination).mp (h .difference (by decide))
  rw [build_of_codes horigin hdestination, if_neg hdiffer]

/-- The checks after the number of passengers. -/
theorem build_of_party
    (h : ∀ earlier : CriteriaCheck, earlier.ctorIdx < CriteriaCheck.dates.ctorIdx →
      draft.Passes earlier) :
    draft.build =
      (do
        draft.checkDates
        draft.filters.validate
        return draft.normalForm) := by
  have hsome : draft.passengers ≠ 0 := Nat.one_le_iff_ne_zero.mp (h .passengers (by decide))
  rw [build_of_route fun earlier hearlier ↦ h earlier (hearlier.trans (by decide)), if_neg hsome]

theorem build_of_passes (h : ∀ check, draft.Passes check) :
    draft.build = .ok draft.normalForm := by
  rw [build_of_party fun earlier _ ↦ h earlier, checkDates_of_passes (h .dates),
    show draft.filters.validate = .ok () from h .filters]
  rfl

/-- The first check that fails decides. -/
theorem FailsFirst.exists_error {check : CriteriaCheck} (h : draft.FailsFirst check) :
    ∃ error, draft.build = .error error ∧ draft.Refuses check error := by
  cases check with
  | origin =>
    refine ⟨_, ?_, rfl⟩
    rw [build, airportCode_of_not h.fails]
    rfl
  | destination =>
    refine ⟨_, ?_, rfl⟩
    rw [build, IsAirportCode.airportCode_eq (h.passes .origin (by decide)),
      airportCode_of_not h.fails]
    rfl
  | difference =>
    have horigin := h.passes .origin (by decide)
    have hdestination := h.passes .destination (by decide)
    -- The check is stated in small letters, the codes are compared as capitals.
    have hsame := of_not_not (mt (difference_iff horigin hdestination).mpr h.fails)
    refine ⟨_, ?_, rfl⟩
    rw [build_of_codes horigin hdestination, if_pos hsame]
    rfl
  | passengers =>
    have hnone : draft.passengers = 0 := Nat.lt_one_iff.mp (not_le.mp h.fails)
    refine ⟨_, ?_, rfl⟩
    rw [build_of_route h.passes, if_pos hnone]
    rfl
  | dates =>
    obtain ⟨error, hdates, hrefuses⟩ := checkDates_of_fails h.fails
    refine ⟨error, ?_, hrefuses⟩
    rw [build_of_party h.passes, hdates]
    rfl
  | filters =>
    have hdates := checkDates_of_passes (h.passes .dates (by decide))
    obtain ⟨error, hvalidate⟩ := validate_of_fails h.fails
    refine ⟨error, ?_, hvalidate⟩
    rw [build_of_party fun earlier hearlier ↦ h.passes earlier (hearlier.trans (by decide)), hdates,
      hvalidate]
    rfl

/-- A draft passes all checks or fails one of them first. -/
theorem passes_or_failsFirst (draft : CriteriaDraft) :
    (∀ check, draft.Passes check) ∨ ∃ check, draft.FailsFirst check := by
  by_cases h : ∀ check, draft.Passes check
  · exact .inl h
  · right
    rw [not_forall] at h
    -- Of the checks that fail, the one that comes first.
    obtain ⟨check, hfails, hleast⟩ :=
      (measure CriteriaCheck.ctorIdx).wf.has_min {check | ¬draft.Passes check} h
    exact ⟨check, hfails, fun earlier hearlier ↦ of_not_not fun hnot ↦
      hleast earlier hnot hearlier⟩

theorem build_eq_ok_iff {criteria : SearchCriteria} :
    draft.build = .ok criteria ↔ (∀ check, draft.Passes check) ∧ criteria = draft.normalForm := by
  constructor
  · intro h
    rcases draft.passes_or_failsFirst with hpasses | ⟨check, hfirst⟩
    · rw [build_of_passes hpasses] at h
      exact ⟨hpasses, (Except.ok.inj h).symm⟩
    · obtain ⟨error, herror, -⟩ := hfirst.exists_error
      rw [herror] at h
      cases h
  · rintro ⟨hpasses, rfl⟩
    exact build_of_passes hpasses

theorem Refuses.unique {check : CriteriaCheck} {error other : CriteriaError}
    (h : draft.Refuses check error) (hother : draft.Refuses check other) : error = other := by
  cases check with
  | origin | destination | difference | passengers => exact h.trans hother.symm
  | dates =>
    obtain ⟨back, hback, rfl⟩ := h
    obtain ⟨date, hdate, rfl⟩ := hother
    rw [Option.mem_unique hback hdate]
  | filters => exact Except.error.inj (h.symm.trans hother)

theorem build_eq_error_iff {error : CriteriaError} :
    draft.build = .error error ↔ ∃ check, draft.FailsFirst check ∧ draft.Refuses check error := by
  constructor
  · intro h
    rcases draft.passes_or_failsFirst with hpasses | ⟨check, hfirst⟩
    · rw [build_of_passes hpasses] at h
      cases h
    · obtain ⟨found, hfound, hrefuses⟩ := hfirst.exists_error
      rw [h, Except.error.injEq] at hfound
      exact ⟨check, hfirst, hfound ▸ hrefuses⟩
  · rintro ⟨check, hfirst, hrefuses⟩
    obtain ⟨found, hfound, hother⟩ := hfirst.exists_error
    rw [hfound, hother.unique hrefuses]

end Checks

end CriteriaDraft

section WellFormed

/-- Three capitals. -/
structure IsNormalCode (code : String) : Prop where
  length : code.toList.length = 3
  capitals : ∀ c ∈ code.toList, Text.isAsciiUpper c = true

/-- The request of the way back: between the same airports the other way, for the same party. -/
def SearchRequest.IsMirrorOf (back out : SearchRequest) : Prop :=
  back = { out with origin := out.destination, destination := out.origin, date := back.date }

/-- What providers and the stages of a search may take for granted. -/
structure SearchCriteria.WellFormed (criteria : SearchCriteria) : Prop where
  origin : IsNormalCode criteria.origin
  destination : IsNormalCode criteria.destination
  differ : criteria.origin ≠ criteria.destination
  passengers : 1 ≤ criteria.passengers
  cabinClass_ne : criteria.cabinClass ≠ ""
  cabinClass_trimmed : Text.trim criteria.cabinClass = criteria.cabinClass
  cabinClass_small : Text.lowercase criteria.cabinClass = criteria.cabinClass
  wayBack : ∀ request ∈ criteria.returnRequest?, request.IsMirrorOf criteria.outboundRequest ∧
    criteria.outboundRequest.date.number ≤ request.date.number
  filters : criteria.filters.validate = .ok ()

theorem IsAirportCode.isNormalCode {code : String} (h : IsAirportCode code) :
    IsNormalCode (Text.asciiUpper (Text.trim code)) where
  length := length_of_airportCode h.airportCode_eq
  capitals := isAsciiUpper_of_airportCode h.airportCode_eq

/-- A cabin class has no white space around it and no capitals, and there is always one. -/
theorem cabinClassOf_normal (cabinClass : Option String) :
    cabinClassOf cabinClass ≠ "" ∧ Text.trim (cabinClassOf cabinClass) = cabinClassOf cabinClass ∧
      Text.lowercase (cabinClassOf cabinClass) = cabinClassOf cabinClass := by
  have hdefault : defaultCabinClass ≠ "" ∧ Text.trim defaultCabinClass = defaultCabinClass ∧
      Text.lowercase defaultCabinClass = defaultCabinClass := by decide +kernel
  cases cabinClass with
  | none => exact hdefault
  | some name =>
    rw [cabinClassOf]
    split
    next => exact hdefault
    next hsome =>
      exact ⟨mt String.isEmpty_iff.mpr hsome, Text.trim_lowercase_trim name,
        Text.lowercase_lowercase _⟩

theorem CriteriaDraft.wellFormed_normalForm {draft : CriteriaDraft}
    (h : ∀ check, draft.Passes check) : draft.normalForm.WellFormed := by
  obtain ⟨hne, htrimmed, hsmall⟩ := cabinClassOf_normal draft.cabinClass
  refine
    { origin := IsAirportCode.isNormalCode (h .origin)
      destination := IsAirportCode.isNormalCode (h .destination)
      differ := (difference_iff (h .origin) (h .destination)).mp (h .difference)
      passengers := h .passengers
      cabinClass_ne := hne
      cabinClass_trimmed := htrimmed
      cabinClass_small := hsmall
      wayBack := ?_
      filters := h .filters }
  intro request hrequest
  obtain ⟨date, hdate, rfl⟩ := Option.map_eq_some_iff.mp hrequest
  exact ⟨rfl, h .dates date hdate⟩

theorem SearchCriteria.Checked.wellFormed {criteria : SearchCriteria} (h : criteria.Checked) :
    criteria.WellFormed := by
  obtain ⟨draft, hbuild⟩ := h
  obtain ⟨hpasses, rfl⟩ := CriteriaDraft.build_eq_ok_iff.mp hbuild
  exact CriteriaDraft.wellFormed_normalForm hpasses

end WellFormed

namespace CriteriaDraft

variable {draft : CriteriaDraft} {members : List (String × Json)}

/-- An object of JSON says a draft: the members may stand in any order and among others. -/
structure SaidBy (draft : CriteriaDraft) (members : List (String × Json)) : Prop where
  origin : Json.Says members "origin" Json.text? draft.origin
  destination : Json.Says members "destination" Json.text? draft.destination
  departureDate : Json.Says members "departure_date" Calendar.dateOfJson? draft.departureDate
  returnDate : Json.SaysOptional members "return_date" Calendar.dateOfJson? draft.returnDate
  passengers : Json.SaysOrDefault members "passengers" Json.nat32? 1 draft.passengers
  cabinClass : Json.SaysOptional members "cabin_class" Json.text? draft.cabinClass
  filters : Json.SaysOrDefault members "filters" FilterSet.ofJson? {} draft.filters
  sort : Json.SaysOrDefault members "sort" SortSpec.ofJson? {} draft.sort

/-- The draft of an object is the one that the object says. -/
theorem ofJson?_object_iff : ofJson? (.object members) = some draft ↔ draft.SaidBy members := by
  rw [ofJson?, Option.bind_eq_bind, Option.bind_eq_some_iff]
  simp only [Json.entries?_eq_some_iff]
  constructor
  · rintro ⟨entries, hentries, hdraft⟩
    split at hdraft
    next =>
      simp only [fieldNames, List.map_cons, List.map_nil, List.cons.injEq] at hentries
      obtain ⟨horigin, hdestination, hdeparture, hreturn, hpassengers, hcabin, hfilters, hsort, -⟩ :=
        hentries
      simp only [Option.bind_eq_bind, Option.bind_eq_some_iff, Option.pure_def, Option.some.injEq]
        at hdraft
      obtain ⟨_, horigin', _, hdestination', _, hdeparture', _, hreturn', _, hpassengers', _,
        hcabin', _, hfilters', _, hsort', rfl⟩ := hdraft
      exact
        { origin := Json.required_eq_some_iff.mp ⟨_, horigin, horigin'⟩
          destination := Json.required_eq_some_iff.mp ⟨_, hdestination, hdestination'⟩
          departureDate := Json.required_eq_some_iff.mp ⟨_, hdeparture, hdeparture'⟩
          returnDate := Json.optionalAnywhere_eq_some_iff.mp ⟨_, hreturn, hreturn'⟩
          passengers := Json.withDefault_eq_some_iff.mp ⟨_, hpassengers, hpassengers'⟩
          cabinClass := Json.optionalAnywhere_eq_some_iff.mp ⟨_, hcabin, hcabin'⟩
          filters := Json.withDefault_eq_some_iff.mp ⟨_, hfilters, hfilters'⟩
          sort := Json.withDefault_eq_some_iff.mp ⟨_, hsort, hsort'⟩ }
    next => cases hdraft
  · intro h
    obtain ⟨origin, horigin, horigin'⟩ := Json.required_eq_some_iff.mpr h.origin
    obtain ⟨destination, hdestination, hdestination'⟩ :=
      Json.required_eq_some_iff.mpr h.destination
    obtain ⟨departure, hdeparture, hdeparture'⟩ := Json.required_eq_some_iff.mpr h.departureDate
    obtain ⟨back, hback, hback'⟩ := Json.optionalAnywhere_eq_some_iff.mpr h.returnDate
    obtain ⟨passengers, hpassengers, hpassengers'⟩ := Json.withDefault_eq_some_iff.mpr h.passengers
    obtain ⟨cabin, hcabin, hcabin'⟩ := Json.optionalAnywhere_eq_some_iff.mpr h.cabinClass
    obtain ⟨filters, hfilters, hfilters'⟩ := Json.withDefault_eq_some_iff.mpr h.filters
    obtain ⟨sort, hsort, hsort'⟩ := Json.withDefault_eq_some_iff.mpr h.sort
    refine ⟨[origin, destination, departure, back, passengers, cabin, filters, sort], ?_, ?_⟩
    · simp only [fieldNames, List.map_cons, List.map_nil, horigin, hdestination, hdeparture, hback,
        hpassengers, hcabin, hfilters, hsort]
    · simp only [Option.bind_eq_bind, Option.bind_some, Option.pure_def, horigin', hdestination',
        hdeparture', hback', hpassengers', hcabin', hfilters', hsort']

/-- The object with all fields of a draft. -/
def written (draft : CriteriaDraft) : List (String × Json) :=
  [ ("origin", .string draft.origin),
    ("destination", .string draft.destination),
    ("departure_date", Calendar.dateToJson draft.departureDate),
    ("return_date", Json.ofOption Calendar.dateToJson draft.returnDate),
    ("passengers", .nat draft.passengers),
    ("cabin_class", Json.ofOption .string draft.cabinClass),
    ("filters", draft.filters.toJson),
    ("sort", draft.sort.toJson) ]

/-- A price bound of zero has no sign in JSON. -/
def settled (draft : CriteriaDraft) : CriteriaDraft :=
  { draft with filters := draft.filters.settled }

theorem saidBy_written (hrange : draft.InRange) (hoffsets : draft.filters.WholeMinutes) :
    draft.settled.SaidBy draft.written := by
  have hgives {name : String} (value : Json) (hmember : (name, value) ∈ draft.written) :
      Json.Gives draft.written name value :=
    Json.gives_iff.mpr (Json.filter_name_eq
      (show (draft.written.map Prod.fst).Nodup from show fieldNames.Nodup by decide) hmember)
  have hoptional {α : Type} {name : String} {reader : Json.Reader α} (toJson : α → Json)
      {value : Option α} (hmember : (name, Json.ofOption toJson value) ∈ draft.written)
      (hread : ∀ present, toJson present ≠ .null ∧ reader (toJson present) = some present) :
      Json.SaysOptional draft.written name reader value := by
    cases value with
    | none => exact .inl (hgives _ hmember)
    | some present => exact ⟨_, hgives _ hmember, hread present⟩
  have hdate (date : Date) : Calendar.dateOfJson? (Calendar.dateToJson date) = some date :=
    Calendar.date?_dateText date
  exact
    { origin := ⟨_, hgives (.string draft.origin) (by simp [written]), rfl⟩
      destination := ⟨_, hgives (.string draft.destination) (by simp [written]), rfl⟩
      departureDate :=
        ⟨_, hgives (Calendar.dateToJson draft.departureDate) (by simp [written]), hdate _⟩
      returnDate := hoptional Calendar.dateToJson (by simp [written, settled]) fun date ↦
        ⟨Json.noConfusion, hdate date⟩
      passengers := .inl
        ⟨_, hgives (.nat draft.passengers) (by simp [written]), Json.nat32?_nat hrange.passengers⟩
      cabinClass := hoptional .string (by simp [written, settled]) fun _ ↦ ⟨Json.noConfusion, rfl⟩
      filters := .inl ⟨_, hgives draft.filters.toJson (by simp [written]),
        FilterSet.ofJson?_toJson hrange.filters hoffsets⟩
      sort := .inl
        ⟨_, hgives draft.sort.toJson (by simp [written]), SortSpec.ofJson?_toJson _⟩ }

/-- A draft is accepted just if it passes all checks, and comes out in normal form; otherwise the
first check that fails says why. Criteria that come out are well formed. An object that says the
draft is accepted or refused like it, and what is written of the draft says it, up to the sign of a
price bound of zero. -/
theorem build_inOrder (draft : CriteriaDraft) :
    (∀ criteria, draft.build = .ok criteria ↔
      (∀ check, draft.Passes check) ∧ criteria = draft.normalForm) ∧
    (∀ error, draft.build = .error error ↔
      ∃ check, draft.FailsFirst check ∧ draft.Refuses check error) ∧
    (∀ criteria, draft.build = .ok criteria → criteria.WellFormed) ∧
    (∀ members, draft.SaidBy members →
      SearchCriteria.ofJson (.object members) = draft.build.mapError .refused) ∧
    (draft.InRange → draft.filters.WholeMinutes → draft.settled.SaidBy draft.written) := by
  refine ⟨fun _ ↦ build_eq_ok_iff, fun _ ↦ build_eq_error_iff,
    fun _ h ↦ SearchCriteria.Checked.wellFormed ⟨draft, h⟩, fun members h ↦ ?_, saidBy_written⟩
  rw [SearchCriteria.ofJson, ofJson?_object_iff.mpr h]
  cases hbuild : draft.build <;> simp only [hbuild, Except.mapError]

def businessTrip : CriteriaDraft where
  origin := " cgk"
  destination := "Dps"
  departureDate := ⟨2024, 6, 1, by decide⟩
  returnDate := some ⟨2024, 6, 5, by decide⟩
  passengers := 2
  cabinClass := some "Business "

/-- A trip that fails the checks of airports, passengers and dates. -/
def nobodysTrip : CriteriaDraft :=
  { businessTrip with
    destination := "CGK"
    returnDate := some ⟨2024, 5, 1, by decide⟩
    passengers := 0 }

theorem build_inOrder_trips :
    nobodysTrip.build = .error (.sameAirport "CGK") ∧
    SearchCriteria.ofJson (.object nobodysTrip.written) =
      .error (.refused (.sameAirport "CGK")) ∧
    businessTrip.build = .ok businessTrip.normalForm ∧ businessTrip.normalForm.WellFormed := by
  have hrange : nobodysTrip.InRange := by
    refine ⟨by decide, ?_⟩
    constructor <;> simp [nobodysTrip, businessTrip, FilterSet.windows]
  have horigin : airportCode nobodysTrip.origin = .ok "CGK" := by decide +kernel
  have hdestination : airportCode nobodysTrip.destination = .ok "CGK" := by decide +kernel
  have hsame : nobodysTrip.build = .error (.sameAirport "CGK") := by
    rw [build, horigin, hdestination]
    rfl
  have hbuild : businessTrip.build = .ok businessTrip.normalForm := by decide +kernel
  obtain ⟨-, -, -, hlike, hsaid⟩ := build_inOrder nobodysTrip
  refine ⟨hsame, ?_, hbuild, (build_inOrder businessTrip).2.2.1 _ hbuild⟩
  rw [hlike _ (hsaid hrange (by decide)), hsame]
  rfl

end CriteriaDraft

end FareSearch
