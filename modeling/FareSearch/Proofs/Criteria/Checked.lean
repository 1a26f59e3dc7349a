import FareSearch.Criteria.Basic

/-!
# What checked criteria satisfy

A draft is built in five checks, and all five were passed where criteria came out. The criteria then
repeat the draft, with airport codes and cabin class in normal form.
-/

namespace FareSearch

/-- A successful sequence of two steps is two successful steps. -/
theorem bind_eq_ok {ε α β : Type} {first : Except ε α} {next : α → Except ε β} {result : β}
    (h : first >>= next = .ok result) : ∃ value, first = .ok value ∧ next value = .ok result := by
  cases first with
  | error error => cases h
  | ok value => exact ⟨value, rfl, h⟩

/-- Criteria that passed the checks. -/
def SearchCriteria.Checked (criteria : SearchCriteria) : Prop :=
  ∃ draft : CriteriaDraft, draft.build = .ok criteria

theorem CriteriaDraft.build_eq_ok {draft : CriteriaDraft} {criteria : SearchCriteria}
    (h : draft.build = .ok criteria) :
    airportCode draft.origin = .ok criteria.origin ∧
      airportCode draft.destination = .ok criteria.destination ∧
      criteria.origin ≠ criteria.destination ∧ draft.passengers ≠ 0 ∧
      draft.checkDates = .ok () ∧ draft.filters.validate = .ok () ∧
      criteria = { criteria with
        departureDate := draft.departureDate
        returnDate := draft.returnDate
        passengers := draft.passengers
        cabinClass := cabinClassOf draft.cabinClass
        filters := draft.filters
        sort := draft.sort } := by
  unfold build at h
  obtain ⟨origin, horigin, h⟩ := bind_eq_ok h
  obtain ⟨destination, hdestination, h⟩ := bind_eq_ok h
  dsimp only at h
  by_cases hsame : origin = destination
  · rw [if_pos hsame] at h
    cases h
  · rw [if_neg hsame] at h
    by_cases hpassengers : draft.passengers = 0
    · rw [if_pos hpassengers] at h
      cases h
    · rw [if_neg hpassengers] at h
      obtain ⟨_, hdates, h⟩ := bind_eq_ok h
      obtain ⟨_, hfilters, h⟩ := bind_eq_ok h
      cases h
      exact ⟨horigin, hdestination, hsame, hpassengers, hdates, hfilters, rfl⟩

section AirportCodes

theorem toNat_lt_of_isAsciiLetter {c : Char} (h : Text.isAsciiLetter c = true) : c.toNat < 128 := by
  simp only [Text.isAsciiLetter, Bool.or_eq_true, Bool.and_eq_true, decide_eq_true_eq] at h
  rcases h with ⟨-, hlast⟩ | ⟨-, hlast⟩
  · exact Nat.lt_of_le_of_lt (UInt32.le_iff_toNat_le.mp (Char.le_def.mp hlast)) (by decide)
  · exact Nat.lt_of_le_of_lt (UInt32.le_iff_toNat_le.mp (Char.le_def.mp hlast)) (by decide)

theorem isAsciiUpper_asciiUpperChar {c : Char} (h : Text.isAsciiLetter c = true) :
    Text.isAsciiUpper (Text.asciiUpperChar c) = true := by
  have hall : ∀ n : Fin 128, Text.isAsciiLetter (Char.ofNat n) = true →
      Text.isAsciiUpper (Text.asciiUpperChar (Char.ofNat n)) = true := by decide
  have hc := hall ⟨c.toNat, toNat_lt_of_isAsciiLetter h⟩
  rw [Char.ofNat_toNat] at hc
  exact hc h

/-- An airport code consists of capitals. -/
theorem isAsciiUpper_of_airportCode {code normal : String} (h : airportCode code = .ok normal) :
    ∀ c ∈ normal.toList, Text.isAsciiUpper c = true := by
  unfold airportCode at h
  dsimp only at h
  split at h
  next hletters =>
    rw [Except.ok.injEq] at h
    rw [Bool.and_eq_true, List.all_eq_true] at hletters
    rw [← h, Text.asciiUpper, String.toList_map]
    intro upper hupper
    obtain ⟨c, hc, rfl⟩ := List.mem_map.mp hupper
    exact isAsciiUpper_asciiUpperChar (hletters.2 c hc)
  next => cases h

theorem SearchCriteria.Checked.isAsciiUpper {criteria : SearchCriteria} (h : criteria.Checked) :
    (∀ c ∈ criteria.origin.toList, Text.isAsciiUpper c = true) ∧
      ∀ c ∈ criteria.destination.toList, Text.isAsciiUpper c = true := by
  obtain ⟨draft, hbuild⟩ := h
  obtain ⟨horigin, hdestination, -⟩ := CriteriaDraft.build_eq_ok hbuild
  exact ⟨isAsciiUpper_of_airportCode horigin, isAsciiUpper_of_airportCode hdestination⟩

end AirportCodes

end FareSearch
