import FareSearch.Leg.Eligibility
import FareSearch.Proofs.Calendar.Instant
import FareSearch.Proofs.Money.Value

/-!
# Tighter filters

Filters tighten others if they have every bound of the others and none of them looser. Airlines are
a bound like the rest only if there are any: without airlines every airline is allowed, so that
fewer names are tighter as long as one is left. Tighter filters accept no more flights.
-/

namespace FareSearch.FilterSet

section Bound

variable {α : Type} {order : α → α → Prop} {strict loose : Option α}

/-- Where the loose bound is present, so is the strict one, and the order leads from the loose one
to it. -/
def NotLooser (order : α → α → Prop) (strict loose : Option α) : Prop :=
  ∀ bound ∈ loose, ∃ firm ∈ strict, order bound firm

instance [DecidableRel order] : Decidable (NotLooser order strict loose) :=
  inferInstanceAs (Decidable (∀ bound ∈ loose, ∃ firm ∈ strict, order bound firm))

theorem NotLooser.all {test : α → Bool} (h : NotLooser order strict loose)
    (hmono : ∀ bound firm, order bound firm → test firm = true → test bound = true)
    (hstrict : strict.all test = true) : loose.all test = true := by
  rw [Option.all_eq_true] at hstrict ⊢
  intro bound hbound
  obtain ⟨firm, hfirm, horder⟩ := h bound hbound
  exact hmono bound firm horder (hstrict firm hfirm)

variable {β : Type} [Preorder β] {reading : α → β} {value : β} {test : α → Bool}

/-- A least value that is raised lets fewer values pass. -/
theorem NotLooser.least
    (h : NotLooser (fun bound firm ↦ reading bound ≤ reading firm) strict loose)
    (htest : ∀ bound, test bound = true ↔ reading bound ≤ value)
    (hstrict : strict.all test = true) : loose.all test = true := by
  apply h.all _ hstrict
  intro bound firm hraised hfirm
  rw [htest] at hfirm ⊢
  exact hraised.trans hfirm

/-- A greatest value that is lowered lets fewer values pass. -/
theorem NotLooser.most
    (h : NotLooser (fun bound firm ↦ reading firm ≤ reading bound) strict loose)
    (htest : ∀ bound, test bound = true ↔ value ≤ reading bound)
    (hstrict : strict.all test = true) : loose.all test = true := by
  apply h.all _ hstrict
  intro bound firm hlowered hfirm
  rw [htest] at hfirm ⊢
  exact hfirm.trans hlowered

end Bound

/-- The strict filters have every bound of the loose ones and none of them looser. Prices count by
value, times by instant, airlines as the set that flights are compared with. -/
structure Tightens (strict loose : FilterSet) : Prop where
  minPrice : NotLooser (fun bound firm ↦ bound.value ≤ firm.value) strict.minPrice loose.minPrice
  maxPrice : NotLooser (fun bound firm ↦ firm.value ≤ bound.value) strict.maxPrice loose.maxPrice
  stops : NotLooser (fun bound firm ↦ bound = firm) strict.stops loose.stops
  maxStops : NotLooser (fun bound firm ↦ firm ≤ bound) strict.maxStops loose.maxStops
  minDuration : NotLooser (fun bound firm ↦ bound ≤ firm) strict.minDuration loose.minDuration
  maxDuration : NotLooser (fun bound firm ↦ firm ≤ bound) strict.maxDuration loose.maxDuration
  airlines : loose.normalizedAirlines ≠ [] →
    strict.normalizedAirlines ≠ [] ∧ strict.normalizedAirlines ⊆ loose.normalizedAirlines
  departAfter : NotLooser (fun bound firm ↦ bound.instant ≤ firm.instant)
    strict.departAfter loose.departAfter
  departBefore : NotLooser (fun bound firm ↦ firm.instant ≤ bound.instant)
    strict.departBefore loose.departBefore
  arriveAfter : NotLooser (fun bound firm ↦ bound.instant ≤ firm.instant)
    strict.arriveAfter loose.arriveAfter
  arriveBefore : NotLooser (fun bound firm ↦ firm.instant ≤ bound.instant)
    strict.arriveBefore loose.arriveBefore

section Acceptance

variable {strict loose : FilterSet}

theorem Tightens.acceptsPrice {amount : Amount} (h : strict.Tightens loose)
    (hstrict : strict.acceptsPrice amount = true) : loose.acceptsPrice amount = true := by
  rw [FilterSet.acceptsPrice, Bool.and_eq_true] at hstrict ⊢
  constructor
  · exact h.minPrice.least (fun least ↦ least.le_iff amount) hstrict.1
  · exact h.maxPrice.most (fun most ↦ amount.le_iff most) hstrict.2

theorem Tightens.acceptsStops {stops : ℕ} (h : strict.Tightens loose)
    (hstrict : strict.acceptsStops stops = true) : loose.acceptsStops stops = true := by
  rw [FilterSet.acceptsStops, Bool.and_eq_true] at hstrict ⊢
  constructor
  · apply h.stops.all _ hstrict.1
    intro bound firm hsame hfirm
    rwa [hsame]
  · exact h.maxStops.most (fun most ↦ decide_eq_true_iff) hstrict.2

theorem Tightens.acceptsDuration {minutes : ℤ} (h : strict.Tightens loose)
    (hstrict : strict.acceptsDuration minutes = true) : loose.acceptsDuration minutes = true := by
  rw [FilterSet.acceptsDuration, Bool.and_eq_true] at hstrict ⊢
  constructor
  · exact h.minDuration.least (fun least ↦ decide_eq_true_iff) hstrict.1
  · exact h.maxDuration.most (fun most ↦ decide_eq_true_iff) hstrict.2

theorem acceptsAirline_iff {names : List String} {airline : Airline} :
    acceptsAirline names airline = true ↔
      (names ≠ [] → Text.lowercase airline.name ∈ names ∨ Text.lowercase airline.code ∈ names) := by
  rw [acceptsAirline, Bool.or_assoc, Bool.or_eq_true, Bool.or_eq_true, List.isEmpty_iff,
    List.contains_iff_mem, List.contains_iff_mem, or_iff_not_imp_left]

theorem Tightens.acceptsAirline {airline : Airline} (h : strict.Tightens loose)
    (hstrict : acceptsAirline strict.normalizedAirlines airline = true) :
    acceptsAirline loose.normalizedAirlines airline = true := by
  rw [acceptsAirline_iff] at hstrict ⊢
  intro hnamed
  obtain ⟨hleft, hsubset⟩ := h.airlines hnamed
  exact (hstrict hleft).imp (fun hname ↦ hsubset hname) fun hcode ↦ hsubset hcode

theorem Tightens.acceptsTimes {leaves arrives : Option Timestamp} (h : strict.Tightens loose)
    (hstrict : strict.acceptsTimes leaves arrives = true) :
    loose.acceptsTimes leaves arrives = true := by
  cases leaves with
  | none => exact hstrict
  | some leaves =>
    cases arrives with
    | none => exact hstrict
    | some arrives =>
      simp only [FilterSet.acceptsTimes, Bool.and_eq_true] at hstrict ⊢
      obtain ⟨⟨⟨hdepartAfter, hdepartBefore⟩, harriveAfter⟩, harriveBefore⟩ := hstrict
      exact ⟨⟨⟨h.departAfter.least (fun _ ↦ Timestamp.le_iff) hdepartAfter,
        h.departBefore.most (fun _ ↦ Timestamp.le_iff) hdepartBefore⟩,
        h.arriveAfter.least (fun _ ↦ Timestamp.le_iff) harriveAfter⟩,
        h.arriveBefore.most (fun _ ↦ Timestamp.le_iff) harriveBefore⟩

/-- What tighter filters accept, the looser ones accept. -/
theorem Tightens.accepts {flight : Flight} (h : strict.Tightens loose)
    (hstrict : strict.accepts flight = true) : loose.accepts flight = true := by
  simp only [FilterSet.accepts, Bool.and_eq_true] at hstrict ⊢
  obtain ⟨⟨⟨⟨hprice, hstops⟩, hduration⟩, hairline⟩, htimes⟩ := hstrict
  exact ⟨⟨⟨⟨h.acceptsPrice hprice, h.acceptsStops hstops⟩, h.acceptsDuration hduration⟩,
    h.acceptsAirline hairline⟩, h.acceptsTimes htimes⟩

end Acceptance

end FareSearch.FilterSet
