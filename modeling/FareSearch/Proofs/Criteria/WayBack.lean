import FareSearch.Proofs.Criteria.Checked
import FareSearch.Proofs.Text.Lowercase

/-!
# The way back as a search of its own

Checked criteria are in normal form: as a draft they pass all checks again and come out unchanged.
The criteria without the way back and the criteria of the way back alone are in normal form with
them.
-/

namespace FareSearch

section AirportCodes

theorem ascii_of_isAsciiUpper {c : Char} (h : Text.isAsciiUpper c = true) :
    c.toNat < 128 ∧ Text.isAsciiLetter c = true ∧ Text.isBlank c = false ∧
      Text.asciiUpperChar c = c := by
  have hletter : Text.isAsciiLetter c = true := by
    rw [Text.isAsciiLetter, show ('A' ≤ c && c ≤ 'Z') = true from h, Bool.or_true]
  have hascii : c.toNat < 128 := toNat_lt_of_isAsciiLetter hletter
  have hall := Text.ascii_forall (motive := fun c ↦ Text.isAsciiUpper c = true →
    Text.isBlank c = false ∧ Text.asciiUpperChar c = c) (by decide) hascii
  exact ⟨hascii, hletter, hall h⟩

theorem utf8ByteSize_of_ascii {text : String} (h : ∀ c ∈ text.toList, c.toNat < 128) :
    text.utf8ByteSize = text.toList.length := by
  have hlist (chars : List Char) (hchars : ∀ c ∈ chars, c.toNat < 128) :
      (String.ofList chars).utf8ByteSize = chars.length := by
    induction chars with
    | nil => rfl
    | cons c rest ih =>
      have hc : c.utf8Size = 1 := by
        rw [Char.utf8Size_eq_one_iff, UInt32.le_iff_toNat_le]
        exact Nat.le_of_lt_succ (hchars c List.mem_cons_self)
      rw [String.ofList_cons, String.utf8ByteSize_append, String.utf8ByteSize_singleton, hc,
        ih fun d hd ↦ hchars d (List.mem_cons_of_mem c hd), List.length_cons, Nat.add_comm]
  rw [← hlist text.toList h, String.ofList_toList]

theorem trim_of_not_blank {text : String} (h : ∀ c ∈ text.toList, Text.isBlank c = false) :
    Text.trim text = text := by
  have hends : Text.NoBlankEnds text.toList :=
    ⟨fun c hc ↦ h c (List.mem_of_mem_head? hc), fun c hc ↦ h c (List.mem_of_mem_getLast? hc)⟩
  rw [Text.trim, Text.trimmed_of_noBlankEnds hends, String.ofList_toList]

theorem length_of_airportCode {code normal : String} (h : airportCode code = .ok normal) :
    normal.toList.length = 3 := by
  unfold airportCode at h
  dsimp only at h
  split at h
  next hletters =>
    rw [Except.ok.injEq] at h
    rw [Bool.and_eq_true, List.all_eq_true, decide_eq_true_eq] at hletters
    have hascii : ∀ c ∈ (Text.trim code).toList, c.toNat < 128 := fun c hc ↦
      toNat_lt_of_isAsciiLetter (hletters.2 c hc)
    calc
      normal.toList.length = (Text.trim code).toList.length := by
        rw [← h, Text.asciiUpper, String.toList_map, List.length_map]
      _ = (Text.trim code).utf8ByteSize := (utf8ByteSize_of_ascii hascii).symm
      _ = 3 := hletters.1
  next => cases h

/-- A code in normal form is its own normal form. -/
theorem airportCode_of_airportCode {code normal : String} (h : airportCode code = .ok normal) :
    airportCode normal = .ok normal := by
  have hcapital := fun c hc ↦ ascii_of_isAsciiUpper (isAsciiUpper_of_airportCode h c hc)
  have htrim : Text.trim normal = normal := trim_of_not_blank fun c hc ↦ (hcapital c hc).2.2.1
  have hsize : normal.utf8ByteSize = 3 :=
    (utf8ByteSize_of_ascii fun c hc ↦ (hcapital c hc).1).trans (length_of_airportCode h)
  have hletters : normal.toList.all Text.isAsciiLetter = true :=
    List.all_eq_true.mpr fun c hc ↦ (hcapital c hc).2.1
  have hupper : Text.asciiUpper normal = normal := by
    rw [← String.toList_inj, Text.asciiUpper, String.toList_map,
      List.map_congr_left fun c hc ↦ (hcapital c hc).2.2.2, List.map_id']
  rw [airportCode, htrim, hletters, hupper, hsize]
  rfl

end AirportCodes

/-- A cabin class in normal form is its own normal form. -/
theorem cabinClassOf_cabinClassOf (cabinClass : Option String) :
    cabinClassOf (some (cabinClassOf cabinClass)) = cabinClassOf cabinClass := by
  have hdefault : cabinClassOf (some defaultCabinClass) = defaultCabinClass := by decide +kernel
  cases cabinClass with
  | none => exact hdefault
  | some name =>
    cases hempty : (Text.lowercase (Text.trim name)).isEmpty with
    | true =>
      have hblank : cabinClassOf (some name) = defaultCabinClass := by
        rw [cabinClassOf, hempty, if_pos rfl]
      rw [hblank, hdefault]
    | false =>
      have hnormal : cabinClassOf (some name) = Text.lowercase (Text.trim name) := by
        rw [cabinClassOf, hempty, if_neg Bool.false_ne_true]
      rw [hnormal, cabinClassOf, Text.lowercase_trim_idempotent, hempty, if_neg Bool.false_ne_true]

theorem FilterSet.validate_reanchoredOn (filters : FilterSet) (date : Date) :
    (filters.reanchoredOn date).validate = filters.validate :=
  rfl

namespace SearchCriteria

/-- Criteria as a draft. -/
def draft (criteria : SearchCriteria) : CriteriaDraft where
  origin := criteria.origin
  destination := criteria.destination
  departureDate := criteria.departureDate
  returnDate := criteria.returnDate
  passengers := criteria.passengers
  cabinClass := some criteria.cabinClass
  filters := criteria.filters
  sort := criteria.sort

/-- The criteria without the way back. -/
def oneWay (criteria : SearchCriteria) : SearchCriteria :=
  { criteria with returnDate := none }

/-- The way back on a date as a search of its own. -/
def wayBack (criteria : SearchCriteria) (date : Date) : SearchCriteria where
  origin := criteria.destination
  destination := criteria.origin
  departureDate := date
  returnDate := none
  passengers := criteria.passengers
  cabinClass := criteria.cabinClass
  filters := criteria.filters.reanchoredOn date
  sort := criteria.sort

/-- Criteria that are left as they are by the checks. -/
structure Normal (criteria : SearchCriteria) : Prop where
  origin : airportCode criteria.origin = .ok criteria.origin
  destination : airportCode criteria.destination = .ok criteria.destination
  differ : criteria.origin ≠ criteria.destination
  passengers : criteria.passengers ≠ 0
  dates : criteria.draft.checkDates = .ok ()
  filters : criteria.filters.validate = .ok ()
  cabinClass : cabinClassOf (some criteria.cabinClass) = criteria.cabinClass

theorem Normal.build_draft {criteria : SearchCriteria} (h : criteria.Normal) :
    criteria.draft.build = .ok criteria := by
  unfold CriteriaDraft.build
  rw [show airportCode criteria.draft.origin = .ok criteria.origin from h.origin,
    show airportCode criteria.draft.destination = .ok criteria.destination from h.destination,
    show criteria.draft.filters.validate = .ok () from h.filters, h.dates,
    show cabinClassOf criteria.draft.cabinClass = criteria.cabinClass from h.cabinClass]
  simp [bind, Except.bind, pure, Except.pure, h.differ, h.passengers, draft]

theorem Checked.normal {criteria : SearchCriteria} (h : criteria.Checked) : criteria.Normal := by
  obtain ⟨draft, hbuild⟩ := h
  obtain ⟨horigin, hdestination, hdiffer, hpassengers, hdates, hfilters, hcriteria⟩ :=
    CriteriaDraft.build_eq_ok hbuild
  rw [hcriteria]
  exact
    { origin := airportCode_of_airportCode horigin
      destination := airportCode_of_airportCode hdestination
      differ := hdiffer
      passengers := hpassengers
      dates := hdates
      filters := hfilters
      cabinClass := cabinClassOf_cabinClassOf draft.cabinClass }

/-- The way back alone passes the checks, on whatever date. -/
theorem Normal.wayBack {criteria : SearchCriteria} (h : criteria.Normal) (date : Date) :
    (criteria.wayBack date).Normal where
  origin := h.destination
  destination := h.origin
  differ := h.differ.symm
  passengers := h.passengers
  dates := rfl
  filters := (criteria.filters.validate_reanchoredOn date).trans h.filters
  cabinClass := h.cabinClass

theorem returnRequest?_eq {criteria : SearchCriteria} {date : Date}
    (h : criteria.returnDate = some date) :
    criteria.returnRequest? = some (criteria.wayBack date).outboundRequest := by
  rw [returnRequest?, h]
  rfl

end SearchCriteria

end FareSearch
