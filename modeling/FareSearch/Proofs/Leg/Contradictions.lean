import FareSearch.Proofs.Criteria.ReadBack
import FareSearch.Proofs.Leg.Durations

/-!
# Filters that nothing satisfies

Bounds contradict each other if no amount, stop count and duration satisfy them together. That is
what the check of filters refuses, durations below zero apart: it compares the same three pairs of
bounds that a flight is held against. So a refused search would have come back without a flight.
-/

namespace FareSearch.FilterSet

section Bounds

variable {α : Type}

theorem clash_eq_none_iff {test : α → α → Bool} {left right : Option α} :
    clash test left right = none ↔ ∀ x ∈ left, ∀ y ∈ right, test x y = false := by
  cases left <;> cases right <;> simp [clash]

/-- A value between two optional bounds: at the least one if there is one, or else at the greatest;
without bounds it is the given one. -/
def between (least most : Option α) (free : α) : α :=
  least.getD (most.getD free)

theorem between_mem {motive : α → Prop} {least most : Option α} {free : α}
    (hleast : ∀ bound ∈ least, motive bound) (hmost : ∀ bound ∈ most, motive bound)
    (hfree : motive free) : motive (between least most free) := by
  cases least with
  | some bound => exact hleast bound rfl
  | none =>
    cases most with
    | some bound => exact hmost bound rfl
    | none => exact hfree

variable {β : Type} [Preorder β] {reading : α → β} {least most : Option α} {free : α}

/-- Bounds that are in order leave room between them. -/
theorem between_le_between
    (h : ∀ low ∈ least, ∀ high ∈ most, reading low ≤ reading high) :
    (∀ low ∈ least, reading low ≤ reading (between least most free)) ∧
      ∀ high ∈ most, reading (between least most free) ≤ reading high := by
  cases least with
  | some bound =>
    refine ⟨?_, h bound rfl⟩
    rintro _ ⟨⟩
    exact le_refl _
  | none =>
    refine ⟨nofun, ?_⟩
    rintro high ⟨⟩
    exact le_refl _

end Bounds

/-- No duration bound is below zero. -/
structure DurationsNonneg (filters : FilterSet) : Prop where
  least : ∀ bound ∈ filters.minDuration, 0 ≤ bound
  most : ∀ bound ∈ filters.maxDuration, 0 ≤ bound

/-- No two bounds contradict each other. Prices count by value. -/
structure Consistent (filters : FilterSet) : Prop where
  prices : ∀ least ∈ filters.minPrice, ∀ most ∈ filters.maxPrice, least.value ≤ most.value
  durations : ∀ least ∈ filters.minDuration, ∀ most ∈ filters.maxDuration, least ≤ most
  stops : ∀ exact ∈ filters.stops, ∀ most ∈ filters.maxStops, exact ≤ most

/-- An amount, a stop count and a number of minutes satisfy the bounds together. -/
structure SatisfiedBy (filters : FilterSet) (amount : Amount) (stops : ℕ) (minutes : ℤ) :
    Prop where
  price : filters.acceptsPrice amount = true
  stops : filters.acceptsStops stops = true
  duration : filters.acceptsDuration minutes = true

variable {filters : FilterSet} {amount : Amount} {stops : ℕ} {minutes : ℤ}

theorem acceptsStops_iff :
    filters.acceptsStops stops = true ↔
      (∀ exact ∈ filters.stops, stops = exact) ∧ ∀ most ∈ filters.maxStops, stops ≤ most := by
  rw [acceptsStops, Bool.and_eq_true, Option.all_eq_true, Option.all_eq_true]
  simp only [beq_iff_eq, decide_eq_true_eq, Option.mem_def]

theorem conflict?_eq_none_iff (h : filters.DurationsNonneg) :
    filters.conflict? = none ↔ filters.Consistent := by
  have hprices : clash (fun least most ↦ Amount.lt most least) filters.minPrice filters.maxPrice =
      none ↔ ∀ least ∈ filters.minPrice, ∀ most ∈ filters.maxPrice, least.value ≤ most.value := by
    simp only [clash_eq_none_iff, ← Bool.not_eq_true, Amount.lt_iff, not_lt]
  have hsign : (filters.minDuration.any (· < 0) || filters.maxDuration.any (· < 0)) = false := by
    simp only [Bool.or_eq_false_iff, Option.any_eq_false, decide_eq_false_iff_not, not_lt]
    exact ⟨h.least, h.most⟩
  have hdurations : clash (fun least most ↦ decide (most < least)) filters.minDuration
      filters.maxDuration = none ↔
      ∀ least ∈ filters.minDuration, ∀ most ∈ filters.maxDuration, least ≤ most := by
    simp only [clash_eq_none_iff, decide_eq_false_iff_not, not_lt]
  have hstops : clash (fun exact most ↦ decide (most < exact)) filters.stops filters.maxStops =
      none ↔ ∀ exact ∈ filters.stops, ∀ most ∈ filters.maxStops, exact ≤ most := by
    simp only [clash_eq_none_iff, decide_eq_false_iff_not, not_lt]
  unfold conflict?
  rw [hsign]
  constructor
  · intro hnone
    split at hnone
    next => cases hnone
    next hp =>
      rw [if_neg Bool.false_ne_true] at hnone
      split at hnone
      next => cases hnone
      next hd =>
        split at hnone
        next => cases hnone
        next hs => exact ⟨hprices.mp hp, hdurations.mp hd, hstops.mp hs⟩
  · intro hconsistent
    rw [hprices.mpr hconsistent.prices, hdurations.mpr hconsistent.durations,
      hstops.mpr hconsistent.stops]
    rfl

theorem SatisfiedBy.consistent (h : filters.SatisfiedBy amount stops minutes) :
    filters.Consistent := by
  obtain ⟨hprice, hstops, hduration⟩ := h
  rw [acceptsPrice_iff] at hprice
  rw [acceptsStops_iff] at hstops
  rw [acceptsDuration_iff] at hduration
  constructor
  case prices =>
    intro least hleast most hmost
    exact (hprice.1 _ (Option.mem_map_of_mem _ hleast)).trans
      (hprice.2 _ (Option.mem_map_of_mem _ hmost))
  case durations =>
    intro least hleast most hmost
    exact (hduration.1 least hleast).trans (hduration.2 most hmost)
  case stops =>
    intro exact hexact most hmost
    exact hstops.1 exact hexact ▸ hstops.2 most hmost

/-- What lies at the bounds satisfies filters without a contradiction. -/
theorem Consistent.satisfiedBy (h : filters.Consistent) :
    filters.SatisfiedBy (between filters.minPrice filters.maxPrice .zero) (filters.stops.getD 0)
      (between filters.minDuration filters.maxDuration 0) := by
  constructor
  case price =>
    simp only [acceptsPrice_iff, Option.mem_map, forall_exists_index, and_imp,
      forall_apply_eq_imp_iff₂]
    exact between_le_between h.prices
  case duration => exact acceptsDuration_iff.mpr (between_le_between h.durations)
  case stops =>
    rw [acceptsStops_iff]
    cases hexact : filters.stops with
    | some exact =>
      refine ⟨?_, h.stops exact hexact⟩
      rintro _ ⟨⟩
      rfl
    | none => exact ⟨nofun, fun most _ ↦ Nat.zero_le most⟩

theorem satisfiedBy_of_accepts {flight : Flight} (h : filters.accepts flight = true) :
    filters.SatisfiedBy flight.price.amount flight.stops flight.durationMinutes := by
  simp only [accepts, Bool.and_eq_true] at h
  obtain ⟨⟨⟨⟨hprice, hstops⟩, hduration⟩, -⟩, -⟩ := h
  exact ⟨hprice, hstops, hduration⟩

/-- Filters without a duration bound below zero are refused just if their bounds contradict each
other, and if they are refused, no flight of any leg is kept. -/
theorem validate_eq_ok_iff_satisfiedBy (h : filters.DurationsNonneg) :
    (filters.validate = .ok () ↔
      ∃ amount stops minutes, filters.SatisfiedBy amount stops minutes) ∧
    (filters.InRange → filters.validate = .ok () →
      ∃ amount, ∃ stops ≤ Number.limit32, ∃ minutes, 0 ≤ minutes ∧
        minutes < (Number.twoPow 63 : ℤ) ∧ filters.SatisfiedBy amount stops minutes) ∧
    ∀ error, filters.validate = .error error →
      ∀ (leg : Leg) (flights : List Flight), leg.eligible filters flights = [] := by
  have hvalid : filters.validate = .ok () ↔ filters.Consistent :=
    validate_eq_ok.trans (conflict?_eq_none_iff h)
  refine ⟨⟨fun hok ↦ ⟨_, _, _, (hvalid.mp hok).satisfiedBy⟩, ?satisfied⟩, ?inRange, ?refused⟩
  case satisfied =>
    rintro ⟨amount, stops, minutes, hsatisfied⟩
    exact hvalid.mpr hsatisfied.consistent
  case inRange =>
    intro hrange hok
    refine ⟨_, _, ?_, _, between_mem h.least h.most (le_refl 0), ?_, (hvalid.mp hok).satisfiedBy⟩
    · cases hstops : filters.stops with
      | some exact => exact hrange.stops exact hstops
      | none => exact Nat.zero_le _
    · exact between_mem (motive := (· < (Number.twoPow 63 : ℤ)))
        (fun bound hbound ↦ (hrange.minDuration bound hbound).2)
        (fun bound hbound ↦ (hrange.maxDuration bound hbound).2) (by decide)
  case refused =>
    intro error herror leg flights
    unfold Leg.eligible
    rw [List.filter_eq_nil_iff]
    intro flight _ hkept
    rw [Bool.and_eq_true] at hkept
    have hok := hvalid.mpr (satisfiedBy_of_accepts hkept.2).consistent
    cases herror.symm.trans hok

/-- A price between two, one stop and one hour. -/
def oneStopHour (least most : Amount) : FilterSet where
  minPrice := some least
  maxPrice := some most
  stops := some 1
  maxStops := some 1
  minDuration := some 60
  maxDuration := some 60

theorem validate_eq_ok_iff_satisfiedBy_garuda :
    (∃ amount stops minutes, (oneStopHour lowPrice lowPrice).SatisfiedBy amount stops minutes) ∧
      Leg.toDenpasar.eligible (oneStopHour highPrice lowPrice) [morningFlight "Garuda" lowPrice] =
        [] := by
  have hdurations (least most : Amount) : (oneStopHour least most).DurationsNonneg := by
    constructor
    all_goals
      rintro _ ⟨⟩
      decide
  obtain ⟨hok, -, -⟩ := validate_eq_ok_iff_satisfiedBy (hdurations lowPrice lowPrice)
  obtain ⟨-, -, hrefused⟩ := validate_eq_ok_iff_satisfiedBy (hdurations highPrice lowPrice)
  exact ⟨hok.mp (by decide +kernel), hrefused _ rfl _ _⟩

end FareSearch.FilterSet
