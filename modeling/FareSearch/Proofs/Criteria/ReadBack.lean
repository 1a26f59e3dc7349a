import FareSearch.Criteria.Wire
import FareSearch.Json.Writer
import FareSearch.Proofs.Criteria.ExactKey
import FareSearch.Proofs.Criteria.WayBack
import FareSearch.Proofs.Json.ReadBack
import FareSearch.Proofs.Money.ReadBack

/-!
# Criteria that are read back

Criteria are written as JSON field by field, and read as a draft that is checked. Written criteria
pass the checks and come out as they were, up to the sign of a price bound of zero. That holds of
all criteria that were built from values of the right types or that were read, if their time bounds
are at offsets of whole minutes. As a draft of their own, criteria are built unchanged.
-/

namespace FareSearch

open Number

namespace FilterSet

/-- Filters of which each bound is a value of its type. -/
structure InRange (filters : FilterSet) : Prop where
  stops : ∀ count ∈ filters.stops, count ≤ limit32
  maxStops : ∀ count ∈ filters.maxStops, count ≤ limit32
  minDuration : ∀ minutes ∈ filters.minDuration,
    -(twoPow 63 : ℤ) ≤ minutes ∧ minutes < (twoPow 63 : ℤ)
  maxDuration : ∀ minutes ∈ filters.maxDuration,
    -(twoPow 63 : ℤ) ≤ minutes ∧ minutes < (twoPow 63 : ℤ)
  windows : ∀ window ∈ filters.windows, ∀ stamp ∈ window, stamp.IsKept

/-- The filters as they are read: a price bound of zero has no sign. -/
def settled (filters : FilterSet) : FilterSet :=
  { filters with
    minPrice := filters.minPrice.map Amount.settled
    maxPrice := filters.maxPrice.map Amount.settled }

section Reading

variable {filters : FilterSet}

theorem entries?_toJson (filters : FilterSet) :
    Json.entries? fieldNames filters.toJson =
      some
        [ .given (Json.ofOption Amount.toJson filters.minPrice),
          .given (Json.ofOption Amount.toJson filters.maxPrice),
          .given (Json.ofOption Json.nat filters.stops),
          .given (Json.ofOption Json.nat filters.maxStops),
          .given (Json.ofOption Json.whole filters.minDuration),
          .given (Json.ofOption Json.whole filters.maxDuration),
          .given (Json.strings filters.airlines),
          .given (Json.ofOption Calendar.timestampToJson filters.departAfter),
          .given (Json.ofOption Calendar.timestampToJson filters.departBefore),
          .given (Json.ofOption Calendar.timestampToJson filters.arriveAfter),
          .given (Json.ofOption Calendar.timestampToJson filters.arriveBefore) ] :=
  Json.entries?_object (show fieldNames.Nodup by decide)

theorem optionalAnywhere_price (price : Option Amount) :
    (Json.Entry.given (Json.ofOption Amount.toJson price)).optionalAnywhere Amount.ofJson? =
      some (price.map Amount.settled) :=
  Json.optionalAnywhere_ofOption Amount.settled fun amount _ ↦
    ⟨Json.noConfusion, amount.ofJson?_toJson⟩

theorem optionalAnywhere_count {count : Option ℕ} (h : ∀ n ∈ count, n ≤ limit32) :
    (Json.Entry.given (Json.ofOption Json.nat count)).optionalAnywhere Json.nat32? =
      some count :=
  Json.optionalAnywhere_unchanged fun n hn ↦ ⟨Json.noConfusion, Json.nat32?_nat (h n hn)⟩

theorem optionalAnywhere_minutes {minutes : Option ℤ}
    (h : ∀ n ∈ minutes, -(twoPow 63 : ℤ) ≤ n ∧ n < (twoPow 63 : ℤ)) :
    (Json.Entry.given (Json.ofOption Json.whole minutes)).optionalAnywhere Json.int64? =
      some minutes :=
  Json.optionalAnywhere_unchanged fun n hn ↦
    ⟨Json.noConfusion, Json.int64?_whole (h n hn).1 (h n hn).2⟩

theorem optionalAnywhere_window {window : Option Timestamp}
    (h : ∀ stamp ∈ window, stamp.IsKept) (hoffset : ∀ stamp ∈ window, stamp.offset % 60 = 0) :
    (Json.Entry.given (Json.ofOption Calendar.timestampToJson window)).optionalAnywhere
      Calendar.timestampOfJson? = some window :=
  Json.optionalAnywhere_unchanged fun stamp hstamp ↦ ⟨Json.noConfusion,
    Calendar.timestamp?_timestampText (h stamp hstamp) (hoffset stamp hstamp)⟩

/-- Filters are read from what is written of them. -/
theorem ofJson?_toJson (h : filters.InRange) (hoffsets : filters.WholeMinutes) :
    ofJson? filters.toJson = some filters.settled := by
  obtain ⟨hda, hdb, haa, hab, -⟩ := by
    simpa only [windows, List.forall_mem_cons] using h.windows
  obtain ⟨hda', hdb', haa', hab', -⟩ := by
    simpa only [WholeMinutes, windows, List.forall_mem_cons] using hoffsets
  rw [ofJson?, entries?_toJson]
  simp only [Option.bind_eq_bind, Option.bind_some, optionalAnywhere_price,
    optionalAnywhere_count h.stops, optionalAnywhere_count h.maxStops,
    optionalAnywhere_minutes h.minDuration, optionalAnywhere_minutes h.maxDuration,
    Json.Entry.withDefault, Json.list?_strings, optionalAnywhere_window hda hda',
    optionalAnywhere_window hdb hdb', optionalAnywhere_window haa haa',
    optionalAnywhere_window hab hab', Option.pure_def, settled]

theorem readsBack_toJson (h : filters.InRange) (depth : ℕ) :
    Json.ReadsBack (depth + 2) filters.toJson := by
  have hcount {count : Option ℕ} (hcount : ∀ n ∈ count, n ≤ limit32) :
      Json.ReadsBack (depth + 1) (Json.ofOption Json.nat count) := by
    apply Json.readsBack_ofOption
    intro n hn
    have hlimit : limit32 ≤ limit64 := by decide
    exact .whole _ (by omega) (Int.ofNat_le.mpr (le_trans (hcount n hn) hlimit))
  have hminutes {minutes : Option ℤ}
      (hminutes : ∀ n ∈ minutes, -(twoPow 63 : ℤ) ≤ n ∧ n < (twoPow 63 : ℤ)) :
      Json.ReadsBack (depth + 1) (Json.ofOption Json.whole minutes) := by
    apply Json.readsBack_ofOption
    intro n hn
    have hlimit : (twoPow 63 : ℤ) ≤ (limit64 : ℤ) := by decide
    exact .whole _ (hminutes n hn).1 (le_trans (hminutes n hn).2.le hlimit)
  have hstring {α : Type} {text : α → String} (value : Option α) :
      Json.ReadsBack (depth + 1) (Json.ofOption (fun present ↦ .string (text present)) value) :=
    Json.readsBack_ofOption fun _ _ ↦ .string _ _
  have hairlines : Json.ReadsBack (depth + 1) (Json.strings filters.airlines) := by
    refine .array fun item hitem ↦ ?_
    obtain ⟨name, -, rfl⟩ := List.mem_map.mp hitem
    exact .string _ _
  refine .object ?_
  simp only [List.forall_mem_cons]
  exact ⟨hstring _, hstring _, hcount h.stops, hcount h.maxStops, hminutes h.minDuration,
    hminutes h.maxDuration, hairlines, hstring _, hstring _, hstring _, hstring _,
    List.forall_mem_nil _⟩

end Reading

section Bounds

variable {json : Json} {filters : FilterSet}

theorem isKept_of_timestampOfJson? (json : Json) (stamp : Timestamp)
    (h : Calendar.timestampOfJson? json = some stamp) : stamp.IsKept := by
  unfold Calendar.timestampOfJson? at h
  split at h
  next => exact Calendar.isKept_of_timestamp? h
  next => cases h

/-- Filters that are read have values of their types. -/
theorem inRange_of_ofJson? (json : Json) (filters : FilterSet) (h : ofJson? json = some filters) :
    filters.InRange := by
  unfold ofJson? at h
  obtain ⟨_, -, hentries⟩ := Option.bind_eq_some_iff.mp h
  split at hentries
  next =>
    simp only [Option.bind_eq_bind, Option.bind_eq_some_iff, Option.pure_def, Option.some.injEq]
      at hentries
    obtain ⟨_, -, _, -, _, hstops, _, hmaxStops, _, hminDuration, _, hmaxDuration, _, -, _,
      hdepartAfter, _, hdepartBefore, _, harriveAfter, _, harriveBefore, rfl⟩ := hentries
    have hkept {entry : Json.Entry} {window : Option Timestamp}
        (hwindow : entry.optionalAnywhere Calendar.timestampOfJson? = some window) :=
      Json.forall_of_optionalAnywhere isKept_of_timestampOfJson? hwindow
    refine
      { stops := Json.forall_of_optionalAnywhere Json.le_of_nat32? hstops
        maxStops := Json.forall_of_optionalAnywhere Json.le_of_nat32? hmaxStops
        minDuration := Json.forall_of_optionalAnywhere Json.bounds_of_int64? hminDuration
        maxDuration := Json.forall_of_optionalAnywhere Json.bounds_of_int64? hmaxDuration
        windows := ?_ }
    simp only [windows, List.forall_mem_cons]
    exact ⟨hkept hdepartAfter, hkept hdepartBefore, hkept harriveAfter, hkept harriveBefore,
      List.forall_mem_nil _⟩
  next => cases hentries

end Bounds

section Settled

theorem lt_settled (left right : Amount) : left.settled.lt right.settled = left.lt right := by
  rw [Bool.eq_iff_iff, Amount.lt_iff, Amount.lt_iff, Amount.value_settled, Amount.value_settled]

/-- The sign of a zero brings filters into no conflict. -/
theorem conflict?_settled {filters : FilterSet} (h : filters.conflict? = none) :
    filters.settled.conflict? = none := by
  have hprices : clash (fun least most ↦ Amount.lt most least) filters.settled.minPrice
        filters.settled.maxPrice = none ↔
      clash (fun least most ↦ Amount.lt most least) filters.minPrice filters.maxPrice = none := by
    unfold settled
    cases filters.minPrice <;> cases filters.maxPrice <;> simp [clash, lt_settled]
  unfold conflict? at h ⊢
  cases hclash : clash (fun least most ↦ Amount.lt most least) filters.minPrice
      filters.maxPrice with
  | some pair =>
    rw [hclash] at h
    cases h
  | none =>
    rw [hclash] at h
    rw [hprices.mpr hclash]
    exact h

theorem validate_eq_ok {filters : FilterSet} :
    filters.validate = .ok () ↔ filters.conflict? = none := by
  unfold validate
  cases filters.conflict? <;> simp

theorem sameBounds_settled (filters : FilterSet) :
    filters.sameBounds filters.settled = true := by
  have hamount (amount : Amount) : amount.sameValue amount.settled = true :=
    (Amount.sameValue_iff _ _).mpr amount.value_settled.symm
  have hstamp (stamp : Timestamp) : stamp.sameInstant stamp = true := by
    simp [Timestamp.sameInstant]
  unfold sameBounds settled
  cases filters.minPrice <;> cases filters.maxPrice <;> cases filters.departAfter <;>
    cases filters.departBefore <;> cases filters.arriveAfter <;> cases filters.arriveBefore <;>
      simp [hamount, hstamp]

end Settled

end FilterSet

theorem SortSpec.ofJson?_toJson (spec : SortSpec) : SortSpec.ofJson? spec.toJson = some spec := by
  obtain ⟨field, order⟩ := spec
  cases field <;> cases order <;> rfl

namespace CriteriaDraft

/-- A draft of which each field is a value of its type. -/
structure InRange (draft : CriteriaDraft) : Prop where
  passengers : draft.passengers ≤ limit32
  filters : draft.filters.InRange

theorem inRange_of_ofJson? {json : Json} {draft : CriteriaDraft} (h : ofJson? json = some draft) :
    draft.InRange := by
  unfold ofJson? at h
  obtain ⟨_, -, hentries⟩ := Option.bind_eq_some_iff.mp h
  split at hentries
  next =>
    simp only [Option.bind_eq_bind, Option.bind_eq_some_iff, Option.pure_def, Option.some.injEq]
      at hentries
    obtain ⟨_, -, _, -, _, -, _, -, _, hpassengers, _, -, _, hfilters, _, -, rfl⟩ := hentries
    have hnone : FilterSet.InRange {} := by
      constructor <;> simp [FilterSet.windows]
    exact ⟨Json.of_withDefault (motive := (· ≤ limit32)) Json.le_of_nat32? (by decide) hpassengers,
      Json.of_withDefault FilterSet.inRange_of_ofJson? hnone hfilters⟩
  next => cases hentries

end CriteriaDraft

namespace SearchCriteria

variable {criteria : SearchCriteria}

/-- Criteria that can arise: built from a draft of values of the right types, or read. -/
inductive Obtainable (criteria : SearchCriteria) : Prop where
  | built (draft : CriteriaDraft) (hrange : draft.InRange) (h : draft.build = .ok criteria)
  | read (json : Json) (h : ofJson json = .ok criteria)

theorem Obtainable.exists_draft (h : criteria.Obtainable) :
    ∃ draft : CriteriaDraft, draft.InRange ∧ draft.build = .ok criteria := by
  cases h with
  | built draft hrange hbuild => exact ⟨draft, hrange, hbuild⟩
  | read json hread =>
    unfold ofJson at hread
    split at hread
    next => cases hread
    next draft hdraft =>
      split at hread
      next hbuild =>
        cases hread
        exact ⟨draft, CriteriaDraft.inRange_of_ofJson? hdraft, hbuild⟩
      next => cases hread

theorem Obtainable.checked (h : criteria.Obtainable) : criteria.Checked := by
  obtain ⟨draft, -, hbuild⟩ := h.exists_draft
  exact ⟨draft, hbuild⟩

theorem Obtainable.inRange (h : criteria.Obtainable) : criteria.draft.InRange := by
  obtain ⟨draft, hrange, hbuild⟩ := h.exists_draft
  obtain ⟨-, -, -, -, -, -, hcriteria⟩ := CriteriaDraft.build_eq_ok hbuild
  rw [hcriteria]
  exact ⟨hrange.passengers, hrange.filters⟩

/-- The criteria as they are read: a price bound of zero has no sign. -/
def settled (criteria : SearchCriteria) : SearchCriteria :=
  { criteria with filters := criteria.filters.settled }

theorem Normal.settled (h : criteria.Normal) : criteria.settled.Normal where
  origin := h.origin
  destination := h.destination
  differ := h.differ
  passengers := h.passengers
  dates := h.dates
  filters := FilterSet.validate_eq_ok.mpr
    (FilterSet.conflict?_settled (FilterSet.validate_eq_ok.mp h.filters))
  cabinClass := h.cabinClass

theorem entries?_toJson (criteria : SearchCriteria) :
    Json.entries? CriteriaDraft.fieldNames criteria.toJson =
      some
        [ .given (.string criteria.origin),
          .given (.string criteria.destination),
          .given (Calendar.dateToJson criteria.departureDate),
          .given (Json.ofOption Calendar.dateToJson criteria.returnDate),
          .given (.nat criteria.passengers),
          .given (.string criteria.cabinClass),
          .given criteria.filters.toJson,
          .given criteria.sort.toJson ] :=
  Json.entries?_object (show CriteriaDraft.fieldNames.Nodup by decide)

/-- What is written of criteria is read as the draft that repeats them. -/
theorem ofJson?_toJson (hrange : criteria.draft.InRange)
    (hoffsets : criteria.filters.WholeMinutes) :
    CriteriaDraft.ofJson? criteria.toJson = some criteria.settled.draft := by
  have hdate (date : Date) : Calendar.dateOfJson? (Calendar.dateToJson date) = some date :=
    Calendar.date?_dateText date
  have hreturn : (Json.Entry.given (Json.ofOption Calendar.dateToJson
      criteria.returnDate)).optionalAnywhere Calendar.dateOfJson? = some criteria.returnDate :=
    Json.optionalAnywhere_unchanged fun date _ ↦ ⟨Json.noConfusion, hdate date⟩
  have hcabin : (Json.Entry.given (.string criteria.cabinClass)).optionalAnywhere Json.text? =
      some (some criteria.cabinClass) := rfl
  have hpassengers : Json.nat32? (.nat criteria.passengers) = some criteria.passengers :=
    Json.nat32?_nat hrange.passengers
  have hfilters : FilterSet.ofJson? criteria.filters.toJson = some criteria.filters.settled :=
    FilterSet.ofJson?_toJson hrange.filters hoffsets
  rw [CriteriaDraft.ofJson?, entries?_toJson]
  simp only [Option.bind_eq_bind, Option.bind_some, Json.Entry.required, Json.text?, hdate, hreturn,
    Json.Entry.withDefault, hpassengers, hcabin, hfilters, SortSpec.ofJson?_toJson,
    Option.pure_def]
  rfl

theorem readsBack_toJson (hrange : criteria.draft.InRange) :
    Json.ReadsBack (126 + 1) criteria.toJson := by
  have hpassengers : Json.ReadsBack 126 (.nat criteria.passengers) := by
    have hlimit : limit32 ≤ limit64 := by decide
    exact .whole _ (by omega) (Int.ofNat_le.mpr (le_trans hrange.passengers hlimit))
  have hreturn : Json.ReadsBack 126 (Json.ofOption Calendar.dateToJson criteria.returnDate) :=
    Json.readsBack_ofOption fun _ _ ↦ .string _ _
  have hsort : Json.ReadsBack (125 + 1) criteria.sort.toJson := by
    refine .object ?_
    simp only [List.forall_mem_cons]
    exact ⟨.string _ _, .string _ _, List.forall_mem_nil _⟩
  refine .object ?_
  simp only [List.forall_mem_cons]
  exact ⟨.string _ _, .string _ _, .string _ _, hreturn, hpassengers, .string _ _,
    criteria.filters.readsBack_toJson hrange.filters 124, hsort, List.forall_mem_nil _⟩

/-- Equal criteria that are also written alike: the prices with the same places, everything else the
same. -/
structure SameWritten (a b : SearchCriteria) : Prop where
  same : a.sameAs b = true
  minPrice : a.filters.minPrice.map (fun price ↦ (price.value, price.scale)) =
    b.filters.minPrice.map (fun price ↦ (price.value, price.scale))
  maxPrice : a.filters.maxPrice.map (fun price ↦ (price.value, price.scale)) =
    b.filters.maxPrice.map (fun price ↦ (price.value, price.scale))
  others : { a with filters := { a.filters with minPrice := none, maxPrice := none } } =
    { b with filters := { b.filters with minPrice := none, maxPrice := none } }

theorem sameWritten_settled (criteria : SearchCriteria) :
    criteria.SameWritten criteria.settled := by
  have hprice (price : Option Amount) : price.map (fun price ↦ (price.value, price.scale)) =
      (price.map Amount.settled).map fun price ↦ (price.value, price.scale) := by
    cases price with
    | none => rfl
    | some amount =>
      simp only [Option.map_some, amount.value_settled]
      rfl
  refine ⟨?_, hprice _, hprice _, rfl⟩
  have hbounds := criteria.filters.sameBounds_settled
  simp [sameAs, settled, hbounds]

/-- Criteria that can arise are read from their JSON text as equal criteria, written alike, and are
built unchanged from the draft that repeats them. -/
theorem obtainable_read_back (h : criteria.Obtainable)
    (hoffsets : criteria.filters.WholeMinutes) :
    (∃ read, (Json.read? (Json.compact criteria.toJson)).map ofJson = some (.ok read) ∧
      criteria.SameWritten read) ∧
    criteria.draft.build = .ok criteria := by
  have hnormal := h.checked.normal
  have htext : Json.read? (Json.compact criteria.toJson) = some criteria.toJson :=
    Json.read?_compact (readsBack_toJson h.inRange)
  have hread : ofJson criteria.toJson = .ok criteria.settled := by
    rw [ofJson, ofJson?_toJson h.inRange hoffsets]
    simp only [hnormal.settled.build_draft]
  refine ⟨⟨criteria.settled, ?_, criteria.sameWritten_settled⟩, hnormal.build_draft⟩
  rw [htext, Option.map_some, hread]

theorem obtainable_read_back_garuda :
    (∃ read, (Json.read? (Json.compact (trip garudaLoud).toJson)).map ofJson = some (.ok read) ∧
      (trip garudaLoud).SameWritten read) ∧
    (trip garudaLoud).draft.build = .ok (trip garudaLoud) := by
  have hkept : ∀ stamp ∈ garudaLoud.departAfter, stamp.IsKept := by
    rintro stamp ⟨⟩
    constructor <;> decide
  have hfilters : garudaLoud.InRange := by
    have hnone : ∀ stamp ∈ (none : Option Timestamp), stamp.IsKept := fun _ h ↦ nomatch h
    refine ⟨nofun, nofun, nofun, nofun, ?_⟩
    simp only [FilterSet.windows, List.forall_mem_cons]
    exact ⟨hkept, hnone, hnone, hnone, List.forall_mem_nil _⟩
  have hobtainable : (trip garudaLoud).Obtainable :=
    .built (trip garudaLoud).draft ⟨by decide, hfilters⟩ (checked_trip rfl).normal.build_draft
  exact obtainable_read_back hobtainable (by decide +kernel)

end SearchCriteria

end FareSearch
