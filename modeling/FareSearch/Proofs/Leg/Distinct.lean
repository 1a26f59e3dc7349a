import FareSearch.Proofs.Leg.Duplicates
import FareSearch.Proofs.Text.Bytes

/-!
# The distinct records of a list

Joining duplicates leaves the distinct keys in the order of their first appearance. Under each key
stands the first of its cheapest records, where of equally cheap ones the provider with the lesser
bytes comes first. Records with distinct keys are left as they are, so joining twice is joining
once, and records that arrive later can be joined to what is left of the earlier ones.
-/

namespace FareSearch

namespace Flight

/-- Amount by value, then the bytes of the provider. -/
def byteRank (flight : Flight) : ℚ ×ₗ List UInt8 :=
  toLex (flight.price.amount.value, Text.bytes flight.provider)

theorem byteRank_lt_iff {left right : Flight} :
    left.byteRank < right.byteRank ↔ left.rank < right.rank := by
  unfold byteRank rank
  rw [Prod.Lex.toLex_lt_toLex, Prod.Lex.toLex_lt_toLex, Text.bytes_lt_bytes_iff]

theorem byteRank_le_iff {left right : Flight} :
    left.byteRank ≤ right.byteRank ↔ left.rank ≤ right.rank := by
  have hbytes : Text.bytes left.provider ≤ Text.bytes right.provider ↔
      left.provider ≤ right.provider :=
    List.not_lt.symm.trans ((not_congr Text.bytes_lt_bytes_iff).trans not_lt)
  unfold byteRank rank
  rw [Prod.Lex.toLex_le_toLex, Prod.Lex.toLex_le_toLex, hbytes]

end Flight

/-- The first one in a list that attains the least rank among the records with its key. -/
def FirstLeast (flights : List Flight) (kept : Flight) : Prop :=
  ∃ before after, flights = before ++ kept :: after ∧
    (∀ flight ∈ before, flight.dedupKey = kept.dedupKey → kept.byteRank < flight.byteRank) ∧
    ∀ flight ∈ after, flight.dedupKey = kept.dedupKey → kept.byteRank ≤ flight.byteRank

theorem firstLeast_of_mem_deduplicate {flights : List Flight} {kept : Flight}
    (h : kept ∈ deduplicate flights) : FirstLeast flights kept := by
  obtain ⟨before, after, hsplit, hbefore, hafter⟩ := standing_eq_some (mem_deduplicate_iff.mp h)
  obtain ⟨earlier, rest, rfl, hearlier, hrest⟩ := List.filter_eq_append_iff.mp hsplit
  obtain ⟨skipped, later, rfl, hskipped, -, hlater⟩ := List.filter_eq_cons_iff.mp hrest
  refine ⟨earlier ++ skipped, later, by simp, ?_, ?_⟩
  · intro flight hflight hkey
    rw [Flight.byteRank_lt_iff]
    rcases List.mem_append.mp hflight with hflight | hflight
    · apply hbefore
      rw [← hearlier, List.mem_filter]
      exact ⟨hflight, decide_eq_true hkey⟩
    · exact absurd (decide_eq_true hkey) (hskipped flight hflight)
  · intro flight hflight hkey
    rw [Flight.byteRank_le_iff]
    apply hafter
    rw [← hlater, List.mem_filter]
    exact ⟨hflight, decide_eq_true hkey⟩

theorem deduplicate_append (flights more : List Flight) :
    deduplicate (flights ++ more) = more.foldl placeRecord (deduplicate flights) :=
  List.foldl_append

theorem deduplicate_keys (flights : List Flight) :
    (deduplicate flights).map Flight.dedupKey = (flights.map Flight.dedupKey).eraseDups := by
  induction flights using List.reverseRecOn with
  | nil => rfl
  | append_singleton flights flight ih =>
    rw [deduplicate_append, List.foldl_cons, List.foldl_nil, placeRecord_keys, List.map_append,
      List.map_singleton, List.eraseDups_append, ← ih]
    by_cases hknown : flight.dedupKey ∈ flights.map Flight.dedupKey
    · have hnone : [flight.dedupKey].removeAll (flights.map Flight.dedupKey) = [] := by
        rw [List.removeAll, List.filter_eq_nil_iff]
        simpa using hknown
      rw [if_pos ((mem_deduplicate_keys _ flights).mpr hknown), hnone, List.eraseDups_nil,
        List.append_nil]
    · have hnew : [flight.dedupKey].removeAll (flights.map Flight.dedupKey) =
          [flight.dedupKey] := by
        rw [List.removeAll, List.filter_eq_self]
        simpa using hknown
      rw [if_neg fun hmem ↦ hknown ((mem_deduplicate_keys _ flights).mp hmem), hnew]
      rfl

theorem placeRecord_of_new {records : List Flight} {flight : Flight}
    (hnew : flight.dedupKey ∉ records.map Flight.dedupKey) :
    placeRecord records flight = records ++ [flight] := by
  induction records with
  | nil => rfl
  | cons current rest ih =>
    rw [List.map_cons, List.mem_cons, not_or] at hnew
    rw [placeRecord, if_neg (Ne.symm hnew.1), ih hnew.2, List.cons_append]

/-- Records with distinct keys are left as they are. -/
theorem deduplicate_of_nodup {flights : List Flight}
    (h : (flights.map Flight.dedupKey).Nodup) : deduplicate flights = flights := by
  induction flights using List.reverseRecOn with
  | nil => rfl
  | append_singleton flights flight ih =>
    rw [List.map_append, List.map_singleton, List.nodup_append] at h
    obtain ⟨hflights, -, hnew⟩ := h
    rw [deduplicate_append, ih hflights, List.foldl_cons, List.foldl_nil]
    exact placeRecord_of_new fun hmem ↦ hnew _ hmem _ (List.mem_singleton_self _) rfl

theorem deduplicate_deduplicate (flights : List Flight) :
    deduplicate (deduplicate flights) = deduplicate flights :=
  deduplicate_of_nodup (deduplicate_keys_nodup flights)

/-- What joining duplicates does: to the keys, to the records under them, to its own result, and to
records that arrive in two parts. -/
theorem deduplicate_exactly (flights : List Flight) :
    ((deduplicate flights).map Flight.dedupKey).Nodup ∧
    (deduplicate flights).map Flight.dedupKey = (flights.map Flight.dedupKey).eraseDups ∧
    (∀ kept ∈ deduplicate flights, FirstLeast flights kept) ∧
    deduplicate (deduplicate flights) = deduplicate flights ∧
    ∀ more, deduplicate (flights ++ more) = deduplicate (deduplicate flights ++ more) := by
  refine ⟨deduplicate_keys_nodup flights, deduplicate_keys flights,
    fun _ ↦ firstLeast_of_mem_deduplicate, deduplicate_deduplicate flights, fun more ↦ ?_⟩
  rw [deduplicate_append, deduplicate_append, deduplicate_deduplicate]

end FareSearch
