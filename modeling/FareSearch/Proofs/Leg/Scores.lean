import FareSearch.Proofs.Leg.Offers
import FareSearch.Proofs.Money.Value
import Mathlib.Data.List.Forall2
import Mathlib.Order.Bounds.Basic
import Mathlib.Tactic.Linarith

/-!
# What the scores of a leg say

The rule of the scores is read here in exact numbers, where the program reads it in doubles. Price
and duration each give a share between
zero and one, measured from the least value of the leg to the greatest, and a score weighs the two.
So the scores lie between zero and the sum of the weights, a better flight never has a worse score,
and they depend neither on the order of the flights nor on the unit and the origin of the prices.
-/

namespace FareSearch

section Extent

variable {values : List ℚ} {extent : ℚ × ℚ} {value : ℚ}

/-- The least and the greatest of some values. -/
structure IsExtent (values : List ℚ) (extent : ℚ × ℚ) : Prop where
  least : IsLeast {value | value ∈ values} extent.1
  greatest : IsGreatest {value | value ∈ values} extent.2

theorem setOf_mem_map {α : Type} (items : List α) (reading : α → ℚ) :
    {value | value ∈ items.map reading} = reading '' {item | item ∈ items} :=
  Set.ext fun _ ↦ List.mem_map

theorem IsExtent.eq {extent' : ℚ × ℚ} (h : IsExtent values extent) (h' : IsExtent values extent') :
    extent = extent' :=
  Prod.ext (h.least.unique h'.least) (h.greatest.unique h'.greatest)

theorem IsExtent.of_perm {values' : List ℚ} (h : IsExtent values extent)
    (hperm : values'.Perm values) : IsExtent values' extent := by
  have hsame : {value | value ∈ values'} = {value | value ∈ values} :=
    Set.ext fun _ ↦ hperm.mem_iff
  exact ⟨hsame ▸ h.least, hsame ▸ h.greatest⟩

/-- One more value moves a bound only to itself. -/
theorem IsExtent.append_singleton (h : IsExtent values extent) (value : ℚ) :
    IsExtent (values ++ [value])
      (if value < extent.1 then value else extent.1,
        if extent.2 < value then value else extent.2) := by
  have hinsert : {other | other ∈ values ++ [value]} = insert value {other | other ∈ values} := by
    ext other
    simp [or_comm]
  constructor
  · rw [hinsert]
    have hleast := h.least.insert value
    rwa [min_def_lt] at hleast
  · rw [hinsert]
    have hgreatest := h.greatest.insert value
    rwa [max_comm, max_def_lt] at hgreatest

theorem isExtent_bounds (first : ℚ) (others : List ℚ) :
    IsExtent (first :: others) (bounds first others) := by
  induction others using List.reverseRecOn with
  | nil =>
    have hmem : first ∈ [first] := List.mem_singleton_self first
    exact ⟨⟨hmem, fun _ hvalue ↦ (List.mem_singleton.mp hvalue).ge⟩,
      ⟨hmem, fun _ hvalue ↦ (List.mem_singleton.mp hvalue).le⟩⟩
  | append_singleton others value ih =>
    rw [bounds, List.foldl_append]
    exact ih.append_singleton value

theorem exists_isExtent (h : values ≠ []) : ∃ extent, IsExtent values extent := by
  cases values with
  | nil => exact absurd rfl h
  | cons first others => exact ⟨_, isExtent_bounds first others⟩

/-- An increasing change of the values changes their extent alike. -/
theorem IsExtent.map {change : ℚ → ℚ} (h : IsExtent values extent) (hchange : Monotone change) :
    IsExtent (values.map change) (change extent.1, change extent.2) := by
  constructor
  · rw [setOf_mem_map]
    exact hchange.map_isLeast h.least
  · rw [setOf_mem_map]
    exact hchange.map_isGreatest h.greatest

end Extent

section Share

variable {values : List ℚ} {extent : ℚ × ℚ} {value : ℚ}

/-- How far a value lies above the least one, as a share of the range. -/
def share (extent : ℚ × ℚ) (value : ℚ) : ℚ :=
  (value - extent.1) / divisor (extent.2 - extent.1)

theorem divisor_pos (range : ℚ) : 0 < divisor range := by
  unfold divisor
  split
  next hrange => exact hrange
  next => exact one_pos

theorem share_strictMono (extent : ℚ × ℚ) : StrictMono (share extent) :=
  fun _ _ hless ↦ div_lt_div_of_pos_right (sub_lt_sub_right hless _) (divisor_pos _)

theorem share_least (extent : ℚ × ℚ) : share extent extent.1 = 0 := by
  rw [share, sub_self, zero_div]

theorem IsExtent.share_nonneg (h : IsExtent values extent) (hvalue : value ∈ values) :
    0 ≤ share extent value :=
  share_least extent ▸ (share_strictMono extent).monotone (h.least.2 hvalue)

/-- If all values are equal, the range does not count, and no value is above the least one. -/
theorem IsExtent.share_le_one (h : IsExtent values extent) (hvalue : value ∈ values) :
    share extent value ≤ 1 := by
  have hgreatest : value ≤ extent.2 := h.greatest.2 hvalue
  rw [share, div_le_one (divisor_pos _), divisor]
  split <;> linarith

/-- A share depends neither on the unit nor on the origin of the values. -/
theorem IsExtent.share_affine (h : IsExtent values extent) (hvalue : value ∈ values) {factor : ℚ}
    (hfactor : 0 < factor) (constant : ℚ) :
    share (factor * extent.1 + constant, factor * extent.2 + constant)
      (factor * value + constant) = share extent value := by
  have hleast : extent.1 ≤ value := h.least.2 hvalue
  have hgreatest : value ≤ extent.2 := h.greatest.2 hvalue
  have hdistance : factor * value + constant - (factor * extent.1 + constant) =
      factor * (value - extent.1) := by ring
  have hrange : factor * extent.2 + constant - (factor * extent.1 + constant) =
      factor * (extent.2 - extent.1) := by ring
  unfold share
  rw [hdistance, hrange]
  rcases (hleast.trans hgreatest).eq_or_lt with heq | hless
  · have hsame : value - extent.1 = 0 := by linarith
    rw [hsame, mul_zero, zero_div, zero_div]
  · have hpositive : 0 < extent.2 - extent.1 := sub_pos.mpr hless
    rw [divisor, divisor, if_pos hpositive, if_pos (mul_pos hfactor hpositive),
      mul_div_mul_left _ _ hfactor.ne']

end Share

section Scores

variable {weights : Weights ℚ} {values : List (ℚ × ℚ)} {prices durations value other : ℚ × ℚ}

/-- The extents of prices and of durations in pairs of both. -/
structure Ranges (values : List (ℚ × ℚ)) (prices durations : ℚ × ℚ) : Prop where
  prices : IsExtent (values.map (·.1)) prices
  durations : IsExtent (values.map (·.2)) durations

theorem exists_ranges (h : values ≠ []) : ∃ prices durations, Ranges values prices durations := by
  have hpriced : values.map (·.1) ≠ [] := by simpa using h
  have htimed : values.map (·.2) ≠ [] := by simpa using h
  obtain ⟨prices, hprices⟩ := exists_isExtent hpriced
  obtain ⟨durations, hdurations⟩ := exists_isExtent htimed
  exact ⟨prices, durations, hprices, hdurations⟩

/-- The weighted sum of the shares that a price and a duration have. -/
def weighted (weights : Weights ℚ) (prices durations value : ℚ × ℚ) : ℚ :=
  weights.price * share prices value.1 + weights.duration * share durations value.2

theorem scores_cons (weights : Weights ℚ) (value : ℚ × ℚ) (rest : List (ℚ × ℚ)) :
    scores weights (value :: rest) = (value :: rest).map
      (weighted weights (bounds value.1 (rest.map (·.1))) (bounds value.2 (rest.map (·.2)))) :=
  rfl

theorem Ranges.scores_eq (h : Ranges values prices durations) (weights : Weights ℚ) :
    scores weights values = values.map (weighted weights prices durations) := by
  cases values with
  | nil => rfl
  | cons value rest =>
    rw [scores_cons, (isExtent_bounds _ _).eq h.prices, (isExtent_bounds _ _).eq h.durations]

theorem Ranges.of_perm {values' : List (ℚ × ℚ)} (h : Ranges values prices durations)
    (hperm : values'.Perm values) : Ranges values' prices durations :=
  ⟨h.prices.of_perm (hperm.map _), h.durations.of_perm (hperm.map _)⟩

/-- Both shares are at most one, so a score is at most the sum of the weights. -/
theorem Ranges.weighted_mem_Icc (h : Ranges values prices durations) (hvalue : value ∈ values)
    (hprice : 0 ≤ weights.price) (hduration : 0 ≤ weights.duration) :
    weighted weights prices durations value ∈ Set.Icc 0 (weights.price + weights.duration) := by
  have hpriced := List.mem_map_of_mem (f := (·.1)) hvalue
  have htimed := List.mem_map_of_mem (f := (·.2)) hvalue
  constructor
  · exact add_nonneg (mul_nonneg hprice (h.prices.share_nonneg hpriced))
      (mul_nonneg hduration (h.durations.share_nonneg htimed))
  · exact add_le_add (mul_le_of_le_one_right hprice (h.prices.share_le_one hpriced))
      (mul_le_of_le_one_right hduration (h.durations.share_le_one htimed))

/-- What is least in both has no share in either range. -/
theorem Ranges.weighted_eq_zero (h : Ranges values prices durations) (hvalue : value ∈ values)
    (hleast : ∀ other ∈ values, value.1 ≤ other.1 ∧ value.2 ≤ other.2) :
    weighted weights prices durations value = 0 := by
  have hpriced : IsLeast {price | price ∈ values.map (·.1)} value.1 := by
    rw [setOf_mem_map]
    exact ⟨Set.mem_image_of_mem _ hvalue, Set.forall_mem_image.mpr fun other hother ↦
      (hleast other hother).1⟩
  have htimed : IsLeast {duration | duration ∈ values.map (·.2)} value.2 := by
    rw [setOf_mem_map]
    exact ⟨Set.mem_image_of_mem _ hvalue, Set.forall_mem_image.mpr fun other hother ↦
      (hleast other hother).2⟩
  rw [weighted, hpriced.unique h.prices.least, htimed.unique h.durations.least, share_least,
    share_least, mul_zero, mul_zero, add_zero]

theorem weighted_le_weighted (prices durations : ℚ × ℚ) (hprice : 0 ≤ weights.price)
    (hduration : 0 ≤ weights.duration) (hpriced : value.1 ≤ other.1) (htimed : value.2 ≤ other.2) :
    weighted weights prices durations value ≤ weighted weights prices durations other :=
  add_le_add (mul_le_mul_of_nonneg_left ((share_strictMono prices).monotone hpriced) hprice)
    (mul_le_mul_of_nonneg_left ((share_strictMono durations).monotone htimed) hduration)

theorem weighted_lt_weighted (prices durations : ℚ × ℚ) (hprice : 0 ≤ weights.price)
    (hduration : 0 ≤ weights.duration) (hpriced : value.1 ≤ other.1) (htimed : value.2 ≤ other.2)
    (hbetter : 0 < weights.price ∧ value.1 < other.1 ∨ 0 < weights.duration ∧ value.2 < other.2) :
    weighted weights prices durations value < weighted weights prices durations other := by
  rcases hbetter with ⟨hpositive, hcheaper⟩ | ⟨hpositive, hshorter⟩
  · exact add_lt_add_of_lt_of_le
      (mul_lt_mul_of_pos_left (share_strictMono prices hcheaper) hpositive)
      (mul_le_mul_of_nonneg_left ((share_strictMono durations).monotone htimed) hduration)
  · exact add_lt_add_of_le_of_lt
      (mul_le_mul_of_nonneg_left ((share_strictMono prices).monotone hpriced) hprice)
      (mul_lt_mul_of_pos_left (share_strictMono durations hshorter) hpositive)

/-- Prices in another unit and from another origin give the same scores. -/
theorem Ranges.scores_affine (h : Ranges values prices durations) (weights : Weights ℚ)
    {factor : ℚ} (hfactor : 0 < factor) (constant : ℚ) :
    scores weights (values.map fun value ↦ (factor * value.1 + constant, value.2)) =
      scores weights values := by
  have hchange : Monotone fun price : ℚ ↦ factor * price + constant :=
    fun _ _ hle ↦ add_le_add_left (mul_le_mul_of_nonneg_left hle hfactor.le) constant
  have hranges : Ranges (values.map fun value ↦ (factor * value.1 + constant, value.2))
      (factor * prices.1 + constant, factor * prices.2 + constant) durations := by
    constructor
    · have hprices := h.prices.map hchange
      rwa [List.map_map] at hprices ⊢
    · have hdurations := h.durations
      rwa [List.map_map]
  rw [hranges.scores_eq, h.scores_eq, List.map_map]
  refine List.map_congr_left fun value hvalue ↦ ?_
  have hshare := h.prices.share_affine (List.mem_map_of_mem hvalue) hfactor constant
  simp only [Function.comp_apply, weighted, hshare]

end Scores

namespace BestValue

/-- Every flight keeps its place, and nothing of it changes but the score. -/
theorem forall₂_score (weights : BestValue) (flights : List Flight) :
    List.Forall₂ (fun flight scored ↦
      scored = { flight with bestValueScore := scored.bestValueScore }) flights
      (weights.score flights) := by
  have hmap : flights.map Flight.unscored = (weights.score flights).map Flight.unscored :=
    (weights.map_score flights Flight.unscored fun _ _ ↦ rfl).symm
  rw [← List.forall₂_eq_eq_eq, List.forall₂_map_left_iff, List.forall₂_map_right_iff] at hmap
  exact hmap.imp fun _ _ hsame ↦ Flight.eq_of_unscored_eq hsame.symm

end BestValue

/-- The price and the minutes of a flight as exact numbers. -/
def Flight.exactMeasures (flight : Flight) : ℚ × ℚ :=
  flight.measures Amount.value Int.cast

/-- The scores of flights by the rule of the leg, in exact numbers. -/
def exactScores (weights : Weights ℚ) (flights : List Flight) : List ℚ :=
  flightScores Amount.value Int.cast weights flights

theorem exactScores_eq (weights : Weights ℚ) (flights : List Flight) :
    exactScores weights flights = scores weights (flights.map Flight.exactMeasures) :=
  rfl

/-- With weights that are not negative, each flight has a score of its own, wherever it stands in
the list. Scores lie between zero and the sum of the weights, the cheapest and shortest flight has
zero, and a flight that is no dearer and no longer scores no more, and less if it is better in
something that has weight. Prices in another unit or from another origin change no score. What is
written are the scores by the same rule with amounts and minutes read as doubles, and nothing but
the scores is changed. -/
theorem exactScores_fair (weights : Weights ℚ) (hprice : 0 ≤ weights.price)
    (hduration : 0 ≤ weights.duration) (flights : List Flight) (hflights : flights ≠ []) :
    ∃ score : Flight → ℚ,
      (∀ others : List Flight, others.Perm flights →
        exactScores weights others = others.map score) ∧
      (∀ flight ∈ flights, score flight ∈ Set.Icc 0 (weights.price + weights.duration)) ∧
      (∀ flight ∈ flights,
        (∀ other ∈ flights, flight.price.amount.value ≤ other.price.amount.value ∧
          flight.durationMinutes ≤ other.durationMinutes) →
        score flight = 0) ∧
      (∀ flight ∈ flights, ∀ other ∈ flights,
        flight.price.amount.value ≤ other.price.amount.value →
        flight.durationMinutes ≤ other.durationMinutes →
        score flight ≤ score other ∧
        (0 < weights.price ∧ flight.price.amount.value < other.price.amount.value ∨
          0 < weights.duration ∧ flight.durationMinutes < other.durationMinutes →
          score flight < score other)) ∧
      (∀ (others : List Flight) (factor constant : ℚ), 0 < factor →
        others.map (fun other ↦ (other.price.amount.value, other.durationMinutes)) =
          flights.map (fun flight ↦
            (factor * flight.price.amount.value + constant, flight.durationMinutes)) →
        exactScores weights others = exactScores weights flights) ∧
      ∀ doubles : BestValue,
        (doubles.score flights).map (·.bestValueScore) =
          flightScores Amount.toFloat Number.ofInt doubles flights ∧
        List.Forall₂ (fun flight scored ↦
          scored = { flight with bestValueScore := scored.bestValueScore }) flights
          (doubles.score flights) := by
  have hmeasured : flights.map Flight.exactMeasures ≠ [] := by simpa using hflights
  obtain ⟨prices, durations, hranges⟩ := exists_ranges hmeasured
  have hmem {flight : Flight} (h : flight ∈ flights) :
      flight.exactMeasures ∈ flights.map Flight.exactMeasures := List.mem_map_of_mem h
  refine ⟨fun flight ↦ weighted weights prices durations flight.exactMeasures, ?follows, ?bounded,
    ?least, ?better, ?affine,
    fun doubles ↦ ⟨doubles.map_bestValueScore flights, doubles.forall₂_score flights⟩⟩
  case follows =>
    intro others hperm
    rw [exactScores_eq, (hranges.of_perm (hperm.map _)).scores_eq, List.map_map]
    rfl
  case bounded =>
    intro flight hflight
    exact hranges.weighted_mem_Icc (hmem hflight) hprice hduration
  case least =>
    intro flight hflight hleast
    refine hranges.weighted_eq_zero (hmem hflight) fun value hvalue ↦ ?_
    obtain ⟨other, hother, rfl⟩ := List.mem_map.mp hvalue
    exact ⟨(hleast other hother).1, Int.cast_le.mpr (hleast other hother).2⟩
  case better =>
    intro flight _ other _ hcheaper hshorter
    have htimed : flight.exactMeasures.2 ≤ other.exactMeasures.2 := Int.cast_le.mpr hshorter
    refine ⟨weighted_le_weighted prices durations hprice hduration hcheaper htimed,
      fun hbetter ↦ ?_⟩
    have hstrict : 0 < weights.price ∧ flight.exactMeasures.1 < other.exactMeasures.1 ∨
        0 < weights.duration ∧ flight.exactMeasures.2 < other.exactMeasures.2 :=
      hbetter.imp_right fun ⟨hpositive, hless⟩ ↦ ⟨hpositive, Int.cast_lt.mpr hless⟩
    exact weighted_lt_weighted prices durations hprice hduration hcheaper htimed hstrict
  case affine =>
    intro others factor constant hfactor hothers
    have hmeasures : others.map Flight.exactMeasures = (flights.map Flight.exactMeasures).map
        fun value ↦ (factor * value.1 + constant, value.2) := by
      have hcast := congrArg (List.map (Prod.map id (Int.cast : ℤ → ℚ))) hothers
      rw [List.map_map, List.map_map] at hcast
      rw [List.map_map]
      exact hcast
    rw [exactScores_eq, hmeasures, hranges.scores_affine weights hfactor, exactScores_eq]

theorem exactScores_fair_garuda :
    let cheap := morningFlight "Garuda" lowPrice
    let dear := morningFlight "Batik" highPrice
    ∃ score : Flight → ℚ,
      exactScores ⟨3 / 5, 2 / 5⟩ [dear, cheap] = [score dear, score cheap] ∧
      score cheap = 0 ∧ score cheap < score dear ∧ score dear ≤ 1 := by
  intro cheap dear
  have hless : cheap.price.amount.value < dear.price.amount.value :=
    (Amount.lt_iff _ _).mp (by decide)
  obtain ⟨score, hfollows, hbounded, hleast, hbetter, -⟩ :=
    exactScores_fair ⟨3 / 5, 2 / 5⟩ (by norm_num) (by norm_num) [cheap, dear] (by simp)
  refine ⟨score, hfollows [dear, cheap] (.swap _ _ _), hleast cheap (by simp) ?_, ?_, ?_⟩
  · intro other hother
    rcases List.mem_pair.mp hother with rfl | rfl
    · exact ⟨le_refl _, le_refl _⟩
    · exact ⟨hless.le, le_refl _⟩
  · exact (hbetter cheap (by simp) dear (by simp) hless.le (le_refl _)).2
      (.inl ⟨by norm_num, hless⟩)
  · exact (hbounded dear (by simp)).2.trans (by norm_num)

end FareSearch
