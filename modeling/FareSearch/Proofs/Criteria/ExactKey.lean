import FareSearch.Proofs.Criteria.Key
import FareSearch.Proofs.Text.Joined
import Mathlib.Data.Finset.Dedup
import Mathlib.Data.List.Sort

/-!
# What a cache key distinguishes

Two valid criteria have one key just when they agree on the trip, the class and the sort options, on
the prices by value, on the other bounds, on the time bounds to the second, and on the airlines as a
set of names in normal form. The bars have to be told from the free text for this, and the offsets
have to be whole minutes. So the key does not depend on how an amount, an airline or the list of
airlines is written, nor on the order in which the filters were set.
-/

namespace FareSearch

namespace FilterSet

section Names

variable {name other : String} {names : List String}

theorem mem_insertName_iff : other ∈ insertName name names ↔ other = name ∨ other ∈ names := by
  refine ⟨mem_insertName, ?_⟩
  induction names with
  | nil => exact fun h ↦ List.mem_singleton.mpr (h.resolve_right List.not_mem_nil)
  | cons first rest ih =>
    intro h
    rw [insertName]
    split
    · exact List.mem_cons.mpr h
    · split
      next heq =>
        rcases h with rfl | h
        · exact heq ▸ List.mem_cons_self
        · exact h
      next =>
        rw [List.mem_cons] at h ⊢
        rcases h with rfl | rfl | h
        · exact .inr (ih (.inl rfl))
        · exact .inl rfl
        · exact .inr (ih (.inr h))

theorem mem_nameSet_iff : other ∈ nameSet names ↔ other ∈ names := by
  induction names with
  | nil => rfl
  | cons name rest ih =>
    rw [show nameSet (name :: rest) = insertName name (nameSet rest) from rfl, mem_insertName_iff,
      ih, List.mem_cons]

theorem pairwise_insertName (h : names.Pairwise (· < ·)) :
    (insertName name names).Pairwise (· < ·) := by
  induction names with
  | nil => exact List.pairwise_singleton _ _
  | cons first rest ih =>
    obtain ⟨hfirst, hrest⟩ := List.pairwise_cons.mp h
    rw [insertName]
    split
    next hless =>
      refine List.pairwise_cons.mpr ⟨?_, h⟩
      intro other hother
      rcases List.mem_cons.mp hother with rfl | hother
      · exact hless
      · exact lt_trans hless (hfirst other hother)
    next hnotless =>
      split
      · exact h
      next hdifferent =>
        refine List.pairwise_cons.mpr ⟨?_, ih hrest⟩
        intro other hother
        rcases mem_insertName hother with rfl | hother
        · exact lt_of_le_of_ne (not_lt.mp hnotless) (Ne.symm hdifferent)
        · exact hfirst other hother

theorem pairwise_nameSet (names : List String) : (nameSet names).Pairwise (· < ·) := by
  induction names with
  | nil => exact List.Pairwise.nil
  | cons name rest ih => exact pairwise_insertName ih

end Names

/-- The airlines as a set, trimmed, in small letters and without blanks. -/
def airlineSet (filters : FilterSet) : Finset String :=
  (filters.airlines.map fun entry ↦ Text.lowercase (Text.trim entry)).toFinset.erase ""

theorem mem_normalizedAirlines {filters : FilterSet} {name : String} :
    name ∈ filters.normalizedAirlines ↔ name ∈ filters.airlineSet := by
  have hnormal : normalizedName = fun entry ↦ Text.lowercase (Text.trim entry) := rfl
  rw [normalizedAirlines, mem_nameSet_iff, List.mem_filter, airlineSet, Finset.mem_erase,
    List.mem_toFinset, and_comm, hnormal]
  simp

theorem normalizedAirlines_eq_iff {left right : FilterSet} :
    left.normalizedAirlines = right.normalizedAirlines ↔ left.airlineSet = right.airlineSet := by
  constructor
  · intro h
    ext name
    rw [← mem_normalizedAirlines, h, mem_normalizedAirlines]
  · intro h
    apply (pairwise_nameSet _).eq_of_mem_iff (pairwise_nameSet _)
    intro name
    exact mem_normalizedAirlines.trans (h ▸ mem_normalizedAirlines.symm)

/-- Normal form brings no bar into a name. -/
theorem bar_not_mem_normalizedName {name : String} (h : '|' ∉ name.toList) :
    '|' ∉ (normalizedName name).toList := by
  have htrim : '|' ∉ (Text.trim name).toList := by
    rw [Text.trim, String.toList_ofList, Text.trimEnd, List.mem_reverse]
    intro hmem
    have hstart := List.mem_reverse.mp ((List.dropWhile_sublist _).mem hmem)
    exact h ((List.dropWhile_sublist _).mem hstart)
  rwa [← Text.bars_eq_zero, normalizedName, Text.bars_lowercase, Text.bars_eq_zero]

theorem bar_not_mem_normalizedAirlines {filters : FilterSet}
    (h : ∀ name ∈ filters.airlines, '|' ∉ name.toList) :
    ∀ name ∈ filters.normalizedAirlines, '|' ∉ name.toList := by
  intro name hname
  have hkept := (List.mem_filter.mp (mem_nameSet hname)).1
  obtain ⟨entry, hentry, rfl⟩ := List.mem_map.mp hkept
  exact bar_not_mem_normalizedName (h entry hentry)

/-- Every time bound is at an offset of whole minutes. -/
def WholeMinutes (filters : FilterSet) : Prop :=
  ∀ window ∈ filters.windows, ∀ stamp ∈ window, stamp.offset % 60 = 0

instance (filters : FilterSet) : Decidable filters.WholeMinutes :=
  List.decidableBAll (fun window : Option Timestamp ↦ ∀ stamp ∈ window, stamp.offset % 60 = 0) _

/-- Filters that agree on prices by value, on time bounds to the second, on the airlines as a set,
and on all other bounds. -/
structure SameToSecond (left right : FilterSet) : Prop where
  minPrice : left.minPrice.map Amount.value = right.minPrice.map Amount.value
  maxPrice : left.maxPrice.map Amount.value = right.maxPrice.map Amount.value
  stops : left.stops = right.stops
  maxStops : left.maxStops = right.maxStops
  minDuration : left.minDuration = right.minDuration
  maxDuration : left.maxDuration = right.maxDuration
  departAfter : left.departAfter.map Calendar.reading = right.departAfter.map Calendar.reading
  departBefore : left.departBefore.map Calendar.reading = right.departBefore.map Calendar.reading
  arriveAfter : left.arriveAfter.map Calendar.reading = right.arriveAfter.map Calendar.reading
  arriveBefore : left.arriveBefore.map Calendar.reading = right.arriveBefore.map Calendar.reading
  airlines : left.airlineSet = right.airlineSet

section Bounds

variable {left right : FilterSet}

/-- A part of the key tells of a bound just what its text tells. -/
theorem keyPart_eq_iff {α β : Type} {text : α → String} (told : α → β) {x y : Option α}
    (hempty : ∀ value, text value ≠ "")
    (htext : ∀ value ∈ x, ∀ other ∈ y, text value = text other ↔ told value = told other) :
    keyPart text x = keyPart text y ↔ x.map told = y.map told := by
  cases x with
  | none =>
    cases y with
    | none => exact iff_of_true rfl rfl
    | some other => exact iff_of_false (hempty other).symm (by simp)
  | some value =>
    cases y with
    | none => exact iff_of_false (hempty value) (by simp)
    | some other => exact (htext value rfl other rfl).trans Option.some_inj.symm

theorem keyPart_amount_eq_iff {x y : Option Amount} :
    keyPart (fun amount : Amount ↦ amount.normalize.text) x =
        keyPart (fun amount : Amount ↦ amount.normalize.text) y ↔
      x.map Amount.value = y.map Amount.value := by
  apply keyPart_eq_iff Amount.value (fun amount ↦ amount.normalize.text_ne_empty)
  intro amount _ other _
  exact ⟨fun h ↦ Amount.normalize_eq_iff.mp (Amount.text_inj h),
    fun h ↦ congrArg Amount.text (Amount.normalize_eq_iff.mpr h)⟩

theorem keyPart_nat_eq_iff {x y : Option ℕ} :
    keyPart toString x = keyPart toString y ↔ x = y :=
  ⟨eq_of_keyPart_nat, fun h ↦ h ▸ rfl⟩

theorem keyPart_int_eq_iff {x y : Option ℤ} :
    keyPart toString x = keyPart toString y ↔ x = y :=
  ⟨eq_of_keyPart_int, fun h ↦ h ▸ rfl⟩

theorem keyPart_window_eq_iff {x y : Option Timestamp} (hx : ∀ stamp ∈ x, stamp.offset % 60 = 0)
    (hy : ∀ stamp ∈ y, stamp.offset % 60 = 0) :
    keyPart Calendar.secondsText x = keyPart Calendar.secondsText y ↔
      x.map Calendar.reading = y.map Calendar.reading := by
  apply keyPart_eq_iff Calendar.reading Calendar.secondsText_ne_empty
  intro stamp hstamp other hother
  exact Calendar.secondsText_eq_iff (hx stamp hstamp) (hy other hother)

theorem canonicalKey_eq_iff (hleft : left.WholeMinutes) (hright : right.WholeMinutes)
    (hbars : ∀ name ∈ left.airlines, '|' ∉ name.toList)
    (hbars' : ∀ name ∈ right.airlines, '|' ∉ name.toList) :
    left.canonicalKey = right.canonicalKey ↔ left.SameToSecond right := by
  have hparts : left.canonicalKey = right.canonicalKey ↔
      left.boundTexts = right.boundTexts ∧
        left.normalizedAirlines = right.normalizedAirlines := by
    constructor
    · intro h
      obtain ⟨hbounds, hjoined⟩ := parts_of_canonicalKey_eq h
      refine ⟨hbounds, ?_⟩
      exact Text.intercalate_inj (c := '|') rfl
        (fun _ hname ↦ ne_empty_of_mem_normalizedAirlines hname)
        (fun _ hname ↦ ne_empty_of_mem_normalizedAirlines hname)
        (bar_not_mem_normalizedAirlines hbars) (bar_not_mem_normalizedAirlines hbars') hjoined
    · rintro ⟨hbounds, hnames⟩
      rw [canonicalKey_eq, canonicalKey_eq, hbounds, hnames]
  obtain ⟨hda, hdb, haa, hab, -⟩ := by
    simpa only [WholeMinutes, windows, List.forall_mem_cons] using hleft
  obtain ⟨hda', hdb', haa', hab', -⟩ := by
    simpa only [WholeMinutes, windows, List.forall_mem_cons] using hright
  rw [hparts, normalizedAirlines_eq_iff]
  simp only [boundTexts, List.cons.injEq, and_true, keyPart_amount_eq_iff, keyPart_nat_eq_iff,
    keyPart_int_eq_iff, keyPart_window_eq_iff hda hda', keyPart_window_eq_iff hdb hdb',
    keyPart_window_eq_iff haa haa', keyPart_window_eq_iff hab hab']
  constructor
  · rintro ⟨⟨h₁, h₂, h₃, h₄, h₅, h₆, h₇, h₈, h₉, h₁₀⟩, h₁₁⟩
    exact ⟨h₁, h₂, h₃, h₄, h₅, h₆, h₇, h₈, h₉, h₁₀, h₁₁⟩
  · rintro ⟨h₁, h₂, h₃, h₄, h₅, h₆, h₇, h₈, h₉, h₁₀, h₁₁⟩
    exact ⟨⟨h₁, h₂, h₃, h₄, h₅, h₆, h₇, h₈, h₉, h₁₀⟩, h₁₁⟩

end Bounds

/-- One step in which a bound or the list of airlines is set. -/
inductive Setting where
  | minPrice (amount : Amount)
  | maxPrice (amount : Amount)
  | stops (count : ℕ)
  | maxStops (count : ℕ)
  | minDuration (minutes : ℤ)
  | maxDuration (minutes : ℤ)
  | airlines (names : List String)
  | departAfter (stamp : Timestamp)
  | departBefore (stamp : Timestamp)
  | arriveAfter (stamp : Timestamp)
  | arriveBefore (stamp : Timestamp)

def set (filters : FilterSet) : Setting → FilterSet
  | .minPrice amount => { filters with minPrice := some amount }
  | .maxPrice amount => { filters with maxPrice := some amount }
  | .stops count => { filters with stops := some count }
  | .maxStops count => { filters with maxStops := some count }
  | .minDuration minutes => { filters with minDuration := some minutes }
  | .maxDuration minutes => { filters with maxDuration := some minutes }
  | .airlines names => { filters with airlines := names }
  | .departAfter stamp => { filters with departAfter := some stamp }
  | .departBefore stamp => { filters with departBefore := some stamp }
  | .arriveAfter stamp => { filters with arriveAfter := some stamp }
  | .arriveBefore stamp => { filters with arriveBefore := some stamp }

/-- Filters that are set step by step. -/
def ofSettings (settings : List Setting) : FilterSet :=
  settings.foldl set {}

theorem set_comm {setting other : Setting} (h : setting.ctorIdx ≠ other.ctorIdx)
    (filters : FilterSet) : (filters.set setting).set other = (filters.set other).set setting := by
  cases setting <;> cases other <;> first | rfl | exact absurd rfl h

/-- The order of the steps does not matter if each of them sets something else. -/
theorem ofSettings_eq_of_perm {settings settings' : List Setting} (h : settings.Perm settings')
    (hdistinct : (settings.map Setting.ctorIdx).Nodup) :
    ofSettings settings = ofSettings settings' := by
  apply h.foldl_eq'
  intro setting hsetting other hother filters
  by_cases hsame : setting.ctorIdx = other.ctorIdx
  · rw [List.inj_on_of_nodup_map hdistinct hsetting hother hsame]
  · exact set_comm hsame filters

end FilterSet

namespace SearchCriteria

variable {a b : SearchCriteria}

/-- Criteria whose key can be taken apart: no bar in the class or in an airline entry, and time
bounds at offsets of whole minutes. -/
structure Separable (criteria : SearchCriteria) : Prop where
  cabinClass : '|' ∉ criteria.cabinClass.toList
  airlines : ∀ name ∈ criteria.filters.airlines, '|' ∉ name.toList
  offsets : criteria.filters.WholeMinutes

instance (criteria : SearchCriteria) : Decidable criteria.Separable :=
  decidable_of_iff ('|' ∉ criteria.cabinClass.toList ∧
      (∀ name ∈ criteria.filters.airlines, '|' ∉ name.toList) ∧ criteria.filters.WholeMinutes)
    ⟨fun h ↦ ⟨h.1, h.2.1, h.2.2⟩, fun h ↦ ⟨h.cabinClass, h.airlines, h.offsets⟩⟩

/-- Criteria that agree on trip, class, sort options and, to the second, on the filters. -/
structure SameToSecond (a b : SearchCriteria) : Prop where
  origin : a.origin = b.origin
  destination : a.destination = b.destination
  departureDate : a.departureDate = b.departureDate
  returnDate : a.returnDate = b.returnDate
  passengers : a.passengers = b.passengers
  cabinClass : a.cabinClass = b.cabinClass
  filters : a.filters.SameToSecond b.filters
  sort : a.sort = b.sort

/-- The key tells valid criteria apart just when they do not agree to the second. The order in
which the filters were set is not told. -/
theorem cacheKey_eq_iff (ha : a.Checked) (hb : b.Checked) (hasep : a.Separable)
    (hbsep : b.Separable) :
    (a.cacheKey = b.cacheKey ↔ a.SameToSecond b) ∧
      ∀ settings settings' : List FilterSet.Setting, settings.Perm settings' →
        (settings.map FilterSet.Setting.ctorIdx).Nodup →
        { a with filters := .ofSettings settings }.cacheKey =
          { a with filters := .ofSettings settings' }.cacheKey := by
  have hfilters := FilterSet.canonicalKey_eq_iff hasep.offsets hbsep.offsets hasep.airlines
    hbsep.airlines
  refine ⟨⟨?told, ?alike⟩, ?order⟩
  case told =>
    intro hkey
    obtain ⟨htrip, hsort, hfree⟩ := parts_of_cacheKey_eq ha hb hkey
    obtain ⟨horigin, hdestination, hdeparture, hreturn, hpassengers⟩ :=
      trip_eq_of_tripTexts_eq htrip
    obtain ⟨hcabin, hcanonical⟩ :=
      Text.cut_first (c := '|') rfl hasep.cabinClass hbsep.cabinClass hfree
    exact ⟨horigin, hdestination, hdeparture, hreturn, hpassengers, hcabin,
      hfilters.mp hcanonical, hsort⟩
  case alike =>
    intro h
    have hcanonical := hfilters.mpr h.filters
    rw [cacheKey, cacheKey, h.origin, h.destination, h.departureDate, h.returnDate, h.passengers,
      h.cabinClass, hcanonical, h.sort]
  case order =>
    intro settings settings' hperm hdistinct
    rw [FilterSet.ofSettings_eq_of_perm hperm hdistinct]

/-- One airline in capitals between blanks, and no departure before half a second past eight. -/
def garudaLoud : FilterSet :=
  { garudaPadded with departAfter := (fromEight 500000000).departAfter }

/-- The airline twice in small letters, the limit with places, and no departure before eight. -/
def garudaTwice : FilterSet :=
  { garudaPlain with
    airlines := ["ga", " ", "ga"]
    departAfter := (fromEight 0).departAfter }

/-- The same bounds with another airline. -/
def batikLoud : FilterSet :=
  { garudaLoud with airlines := [" ID "] }

theorem cacheKey_eq_iff_garuda :
    (trip garudaLoud).SameToSecond (trip garudaTwice) ∧
      (trip garudaLoud).cacheKey ≠ (trip batikLoud).cacheKey := by
  have hkey : (trip garudaLoud).cacheKey = (trip garudaTwice).cacheKey := by decide +kernel
  have hloud : (trip garudaLoud).Separable := by decide +kernel
  have htwice : (trip garudaTwice).Separable := by decide +kernel
  have hbatik : (trip batikLoud).Separable := by decide +kernel
  have hairlines : garudaLoud.airlineSet ≠ batikLoud.airlineSet := by decide +kernel
  constructor
  · exact (cacheKey_eq_iff (checked_trip rfl) (checked_trip rfl) hloud htwice).1.mp hkey
  · intro hsame
    have htold := (cacheKey_eq_iff (checked_trip rfl) (checked_trip rfl) hloud hbatik).1.mp hsame
    exact hairlines htold.filters.airlines

end SearchCriteria

end FareSearch
