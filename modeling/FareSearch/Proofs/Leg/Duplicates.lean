import FareSearch.Leg.Duplicates
import FareSearch.Proofs.Money.Value
import Mathlib.Data.Prod.Lex
import Mathlib.Data.String.Basic
import Mathlib.Data.List.Nodup

/-!
# The record that stands for its duplicates

Records are ranked by the number of their amount and then by the name of their provider. Joining
duplicates keeps one record for each key: the first of least rank among the records with that key.
-/

namespace FareSearch

namespace Flight

/-- Amount by value, then provider. -/
def rank (flight : Flight) : ℚ ×ₗ String :=
  toLex (flight.price.amount.value, flight.provider)

theorem isPreferredTo_iff (candidate current : Flight) :
    candidate.isPreferredTo current = true ↔ candidate.rank < current.rank := by
  unfold isPreferredTo rank
  rw [Prod.Lex.toLex_lt_toLex, Bool.or_eq_true, Bool.and_eq_true, Amount.lt_iff,
    Amount.sameValue_iff, decide_eq_true_eq]

theorem rank_eq_of_fields {left right : Flight} (hprice : left.price = right.price)
    (hprovider : left.provider = right.provider) : left.rank = right.rank := by
  unfold rank
  rw [hprice, hprovider]

end Flight

/-- The record kept when another one with its key arrives. -/
def preferred : Option Flight → Flight → Flight
  | none, flight => flight
  | some current, flight => if flight.isPreferredTo current then flight else current

/-- The record that stands for a list of duplicates. -/
def standing (duplicates : List Flight) : Option Flight :=
  duplicates.foldl (fun kept flight ↦ some (preferred kept flight)) none

theorem standing_append_singleton (duplicates : List Flight) (flight : Flight) :
    standing (duplicates ++ [flight]) = some (preferred (standing duplicates) flight) := by
  simp [standing]

theorem standing_isSome (duplicates : List Flight) :
    (standing duplicates).isSome = !duplicates.isEmpty := by
  induction duplicates using List.reverseRecOn with
  | nil => rfl
  | append_singleton duplicates flight => simp [standing_append_singleton]

/-- The standing record is the first one of least rank. -/
theorem standing_eq_some {duplicates : List Flight} {kept : Flight}
    (h : standing duplicates = some kept) :
    ∃ before after, duplicates = before ++ kept :: after ∧
      (∀ flight ∈ before, kept.rank < flight.rank) ∧
      ∀ flight ∈ after, kept.rank ≤ flight.rank := by
  induction duplicates using List.reverseRecOn generalizing kept with
  | nil => simp [standing] at h
  | append_singleton duplicates flight ih =>
    rw [standing_append_singleton, Option.some.injEq] at h
    cases hcurrent : standing duplicates with
    | none =>
      have hempty : duplicates = [] := by
        simpa [hcurrent] using standing_isSome duplicates
      rw [hcurrent] at h
      exact ⟨[], [], by simp [hempty, ← h, preferred], by simp, by simp⟩
    | some current =>
      obtain ⟨before, after, rfl, hbefore, hafter⟩ := ih hcurrent
      rw [hcurrent, preferred] at h
      by_cases hbetter : flight.isPreferredTo current = true
      · rw [if_pos hbetter] at h
        rw [Flight.isPreferredTo_iff] at hbetter
        subst h
        refine ⟨before ++ current :: after, [], rfl, ?_, by simp⟩
        intro other hother
        rcases List.mem_append.mp hother with hother | hother
        · exact hbetter.trans (hbefore other hother)
        · rcases List.mem_cons.mp hother with rfl | hother
          · exact hbetter
          · exact hbetter.trans_le (hafter other hother)
      · rw [if_neg hbetter] at h
        rw [Flight.isPreferredTo_iff, not_lt] at hbetter
        subst h
        refine ⟨before, after ++ [flight], by simp, hbefore, ?_⟩
        intro other hother
        rcases List.mem_append.mp hother with hother | hother
        · exact hafter other hother
        · rwa [List.mem_singleton.mp hother]

theorem standing_mem {duplicates : List Flight} {kept : Flight}
    (h : standing duplicates = some kept) : kept ∈ duplicates := by
  obtain ⟨before, after, rfl, -, -⟩ := standing_eq_some h
  exact List.mem_append_right before List.mem_cons_self

theorem standing_rank_le {duplicates : List Flight} {kept flight : Flight}
    (h : standing duplicates = some kept) (hflight : flight ∈ duplicates) :
    kept.rank ≤ flight.rank := by
  obtain ⟨before, after, rfl, hbefore, hafter⟩ := standing_eq_some h
  rcases List.mem_append.mp hflight with hflight | hflight
  · exact (hbefore flight hflight).le
  · rcases List.mem_cons.mp hflight with rfl | hflight
    · exact le_rfl
    · exact hafter flight hflight

/-- The record with a key in a list of records. -/
def recordOf (key : String) (records : List Flight) : Option Flight :=
  records.find? fun record ↦ record.dedupKey = key

theorem recordOf_placeRecord (key : String) (records : List Flight) (flight : Flight) :
    recordOf key (placeRecord records flight) =
      if flight.dedupKey = key then some (preferred (recordOf key records) flight)
      else recordOf key records := by
  induction records with
  | nil => by_cases hkey : flight.dedupKey = key <;> simp [recordOf, placeRecord, preferred, hkey]
  | cons current rest ih =>
    unfold recordOf at ih ⊢
    unfold placeRecord
    by_cases hsame : current.dedupKey = flight.dedupKey
    · rw [if_pos hsame]
      by_cases hbetter : flight.isPreferredTo current = true
      · by_cases hkey : flight.dedupKey = key
        · simp [preferred, hbetter, hkey, hsame]
        · simp [hbetter, hkey, hsame]
      · by_cases hkey : flight.dedupKey = key
        · simp [preferred, hbetter, hkey, hsame]
        · simp [hbetter, hkey, hsame]
    · rw [if_neg hsame, List.find?_cons, List.find?_cons, ih]
      by_cases hkey : flight.dedupKey = key
      · have hother : current.dedupKey ≠ key := by rwa [← hkey]
        simp [hkey, hother]
      · by_cases hcurrent : current.dedupKey = key <;> simp [hkey, hcurrent]

/-- Each key keeps the record that stands for the records with that key. -/
theorem recordOf_deduplicate (key : String) (flights : List Flight) :
    recordOf key (deduplicate flights) =
      standing (flights.filter fun flight ↦ flight.dedupKey = key) := by
  unfold deduplicate
  induction flights using List.reverseRecOn with
  | nil => rfl
  | append_singleton flights flight ih =>
    rw [List.foldl_append, List.foldl_cons, List.foldl_nil, recordOf_placeRecord, ih,
      List.filter_append]
    by_cases hkey : flight.dedupKey = key
    · simp [hkey, standing_append_singleton]
    · simp [hkey]

/-- A new key goes to the end; a known one keeps its place. -/
theorem placeRecord_keys (records : List Flight) (flight : Flight) :
    (placeRecord records flight).map Flight.dedupKey =
      if flight.dedupKey ∈ records.map Flight.dedupKey then records.map Flight.dedupKey
      else records.map Flight.dedupKey ++ [flight.dedupKey] := by
  induction records with
  | nil => simp [placeRecord]
  | cons current rest ih =>
    unfold placeRecord
    by_cases hsame : current.dedupKey = flight.dedupKey
    · rw [if_pos hsame]
      by_cases hbetter : flight.isPreferredTo current = true <;> simp [hbetter, hsame]
    · rw [if_neg hsame, List.map_cons, List.map_cons, ih]
      simp only [List.mem_cons]
      by_cases hknown : flight.dedupKey ∈ rest.map Flight.dedupKey
      · rw [if_pos hknown, if_pos (.inr hknown)]
      · rw [if_neg hknown, if_neg (by rintro (h | h); exacts [hsame h.symm, hknown h])]
        rfl

theorem deduplicate_keys_nodup (flights : List Flight) :
    ((deduplicate flights).map Flight.dedupKey).Nodup := by
  unfold deduplicate
  induction flights using List.reverseRecOn with
  | nil => simp
  | append_singleton flights flight ih =>
    rw [List.foldl_append, List.foldl_cons, List.foldl_nil, placeRecord_keys]
    split
    next => exact ih
    next hnew =>
      refine List.nodup_append.mpr ⟨ih, List.nodup_singleton _, ?_⟩
      intro key hold new hsingle hsame
      rw [List.mem_singleton.mp hsingle] at hsame
      exact hnew (hsame ▸ hold)

/-- A record is kept exactly if it stands for the records with its key. -/
theorem mem_deduplicate_iff {flights : List Flight} {kept : Flight} :
    kept ∈ deduplicate flights ↔
      standing (flights.filter fun flight ↦ flight.dedupKey = kept.dedupKey) = some kept := by
  rw [← recordOf_deduplicate]
  constructor
  · intro hkept
    obtain ⟨found, hfound⟩ :
        ∃ found, recordOf kept.dedupKey (deduplicate flights) = some found := by
      rw [← Option.isSome_iff_exists, recordOf, List.find?_isSome]
      exact ⟨kept, hkept, by simp⟩
    have hsame : found.dedupKey = kept.dedupKey := by simpa using List.find?_some hfound
    have hmem : found ∈ deduplicate flights := List.mem_of_find?_eq_some hfound
    rw [hfound, List.inj_on_of_nodup_map (deduplicate_keys_nodup flights) hmem hkept hsame]
  · intro hfound
    exact List.mem_of_find?_eq_some hfound

theorem mem_deduplicate_keys (key : String) (flights : List Flight) :
    key ∈ (deduplicate flights).map Flight.dedupKey ↔ key ∈ flights.map Flight.dedupKey := by
  have hsome : (recordOf key (deduplicate flights)).isSome = true ↔
      ∃ flight ∈ flights, flight.dedupKey = key := by
    rw [recordOf_deduplicate, standing_isSome]
    simp
  rw [recordOf, List.find?_isSome] at hsome
  simpa [List.mem_map] using hsome

end FareSearch
