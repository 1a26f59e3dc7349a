import FareSearch.Proofs.Criteria.Tightened
import FareSearch.Proofs.Leg.Offers

/-!
# Two runs of a leg

Offers are told by which records are returned and admitted. If whatever is returned and admitted in
one run is so in another, the other run offers each flight of the first and no dearer; if this
holds both ways, the runs offer the same flights at the same amounts of the same providers. So
tighter filters add no flight, and the order in which providers answer does not matter.
-/

namespace FareSearch

namespace Flight

/-- What an offer is compared by: the key, the number of the amount and the provider. -/
def terms (flight : Flight) : String × ℚ × String :=
  (flight.dedupKey, flight.price.amount.value, flight.provider)

theorem value_le_of_rank_le {left right : Flight} (h : left.rank ≤ right.rank) :
    left.price.amount.value ≤ right.price.amount.value :=
  Prod.Lex.monotone_fst _ _ h

theorem terms_eq {left right : Flight} (hkey : left.dedupKey = right.dedupKey)
    (hrank : left.rank = right.rank) : left.terms = right.terms :=
  Prod.ext hkey (toLex.injective hrank)

end Flight

namespace Leg

section Runs

variable {leg leg' : Leg} {filters filters' : FilterSet} {returned returned' : Flight → Prop}
  {offers offers' : List Flight}

theorem OffersOf.keys_nodup (h : leg.OffersOf filters returned offers) :
    (offers.map Flight.dedupKey).Nodup := by
  rw [List.nodup_iff_count_le_one]
  intro key
  by_cases hkey : ∃ record, returned record ∧ leg.Admits filters record ∧ record.dedupKey = key
  · exact (h.once key hkey).le
  · rw [List.count_eq_zero_of_not_mem (h.never key hkey)]
    exact zero_le_one

theorem OffersOf.terms_nodup (h : leg.OffersOf filters returned offers) :
    (offers.map Flight.terms).Nodup := by
  apply List.Nodup.of_map Prod.fst
  rw [List.map_map]
  exact h.keys_nodup

section More

variable (h : leg.OffersOf filters returned offers)
  (h' : leg'.OffersOf filters' returned' offers')
  (hmore : ∀ record, returned record ∧ leg.Admits filters record →
    returned' record ∧ leg'.Admits filters' record)
include h h' hmore

/-- A run in which more records are returned and admitted offers each flight, and none dearer. -/
theorem OffersOf.exists_rank_le {offer : Flight} (hoffer : offer ∈ offers) :
    ∃ other ∈ offers', other.dedupKey = offer.dedupKey ∧ other.rank ≤ offer.rank := by
  obtain ⟨record, hreturned, hadmits, hkey, hfields⟩ := h.kept offer hoffer
  obtain ⟨hreturned', hadmits'⟩ := hmore record ⟨hreturned, hadmits⟩
  have hoffered : offer.dedupKey ∈ offers'.map Flight.dedupKey := by
    rw [← List.count_pos_iff, h'.once _ ⟨record, hreturned', hadmits', hkey⟩]
    exact one_pos
  obtain ⟨other, hother, hsame⟩ := List.mem_map.mp hoffered
  refine ⟨other, hother, hsame, ?_⟩
  calc
    other.rank ≤ record.rank :=
      h'.least other hother record hreturned' hadmits' (hkey.trans hsame.symm)
    _ = offer.rank := Flight.rank_eq_of_fields (by rw [hfields]) (by rw [hfields])

theorem OffersOf.rank_le {offer other : Flight} (hoffer : offer ∈ offers)
    (hother : other ∈ offers') (hsame : other.dedupKey = offer.dedupKey) :
    other.rank ≤ offer.rank := by
  obtain ⟨least, hleast, hkey, hrank⟩ := h.exists_rank_le h' hmore hoffer
  have heq : least = other :=
    List.inj_on_of_nodup_map h'.keys_nodup hleast hother (hkey.trans hsame.symm)
  exact heq ▸ hrank

end More

section Same

variable (h : leg.OffersOf filters returned offers)
  (h' : leg'.OffersOf filters' returned' offers')
  (hsame : ∀ record, returned record ∧ leg.Admits filters record ↔
    returned' record ∧ leg'.Admits filters' record)
include h h' hsame

theorem OffersOf.terms_mem {offer : Flight} (hoffer : offer ∈ offers) :
    offer.terms ∈ offers'.map Flight.terms := by
  obtain ⟨other, hother, hkey, hle⟩ :=
    h.exists_rank_le h' (fun record ↦ (hsame record).mp) hoffer
  have hge := h'.rank_le h (fun record ↦ (hsame record).mpr) hother hoffer hkey.symm
  exact List.mem_map.mpr ⟨other, hother, Flight.terms_eq hkey (le_antisymm hle hge)⟩

/-- Runs in which the same records are returned and admitted offer the same terms. -/
theorem OffersOf.terms_perm : (offers.map Flight.terms).Perm (offers'.map Flight.terms) := by
  rw [List.perm_ext_iff_of_nodup h.terms_nodup h'.terms_nodup]
  intro terms
  constructor
  · intro hterms
    obtain ⟨offer, hoffer, rfl⟩ := List.mem_map.mp hterms
    exact h.terms_mem h' hsame hoffer
  · intro hterms
    obtain ⟨other, hother, rfl⟩ := List.mem_map.mp hterms
    exact h'.terms_mem h (fun record ↦ (hsame record).symm) hother

end Same

end Runs

theorem Admits.of_tightens {leg : Leg} {strict loose : FilterSet} {record : Flight}
    (h : strict.Tightens loose) (hadmits : leg.Admits strict record) : leg.Admits loose record :=
  ⟨hadmits.1, h.accepts hadmits.2⟩

/-- Tighter filters offer no flight that the looser ones do not, and none at a lower amount. -/
theorem offers_of_tightens (leg : Leg) {strict loose : FilterSet} (h : strict.Tightens loose)
    (weights : BestValue) (sort : SortSpec) (records : List Flight) :
    (∀ key ∈ (leg.offers strict weights sort records).map Flight.dedupKey,
      key ∈ (leg.offers loose weights sort records).map Flight.dedupKey) ∧
    ∀ offer ∈ leg.offers strict weights sort records,
      ∀ other ∈ leg.offers loose weights sort records, other.dedupKey = offer.dedupKey →
        other.price.amount.value ≤ offer.price.amount.value := by
  have hstrict := leg.offers_offersOf strict weights sort records
  have hloose := leg.offers_offersOf loose weights sort records
  have hmore (record : Flight) (hadmitted : record ∈ records ∧ leg.Admits strict record) :
      record ∈ records ∧ leg.Admits loose record :=
    hadmitted.imp_right (Admits.of_tightens h)
  constructor
  · intro key hkey
    obtain ⟨offer, hoffer, rfl⟩ := List.mem_map.mp hkey
    obtain ⟨other, hother, hsame, -⟩ := hstrict.exists_rank_le hloose hmore hoffer
    exact List.mem_map.mpr ⟨other, hother, hsame⟩
  · intro offer hoffer other hother hsame
    exact Flight.value_le_of_rank_le (hstrict.rank_le hloose hmore hoffer hother hsame)

/-- The morning flight at two amounts. -/
def lowAndHigh : List Flight :=
  [morningFlight "Garuda" lowPrice, morningFlight "Traveloka" highPrice]

def fromLow : FilterSet :=
  { minPrice := some lowPrice, airlines := ["JT", "GA"] }

def fromHigh : FilterSet :=
  { minPrice := some highPrice, airlines := [" ga "] }

/-- From the high amount on, the dear record is offered for a flight that was cheap before. -/
theorem offers_of_tightens_garuda :
    fromHigh.Tightens fromLow ∧
      ∃ offer ∈ toDenpasar.offers fromHigh .standard {} lowAndHigh,
        offer.provider = "Traveloka" ∧
          ∃ other ∈ toDenpasar.offers fromLow .standard {} lowAndHigh,
            other.dedupKey = offer.dedupKey ∧
              other.price.amount.value ≤ offer.price.amount.value := by
  have htightens : fromHigh.Tightens fromLow := by
    constructor <;> decide +kernel
  have hlow : ¬toDenpasar.Admits fromHigh (morningFlight "Garuda" lowPrice) := by
    decide +kernel
  have hhigh : toDenpasar.Admits fromHigh (morningFlight "Traveloka" highPrice) := by
    decide +kernel
  obtain ⟨hkeys, hamounts⟩ := toDenpasar.offers_of_tightens htightens .standard {} lowAndHigh
  have hoffered := (toDenpasar.mem_offers_keys fromHigh .standard {} lowAndHigh _).mpr
    ⟨morningFlight "Traveloka" highPrice, .tail _ (.head _), hhigh, rfl⟩
  obtain ⟨offer, hoffer, -⟩ := List.mem_map.mp hoffered
  obtain ⟨other, hother, hsame⟩ := List.mem_map.mp (hkeys _ (List.mem_map_of_mem hoffer))
  refine ⟨htightens, offer, hoffer, ?_, other, hother, hsame, hamounts _ hoffer _ hother hsame⟩
  obtain ⟨record, hrecord, hadmits, hscored⟩ := exists_admitted_of_mem_offers hoffer
  rcases List.mem_pair.mp hrecord with rfl | rfl
  · exact absurd hadmits hlow
  · rw [hscored]
    rfl

/-- The order of the records does not decide which flights are offered, at which amounts and by
which providers. -/
theorem offers_of_perm (leg : Leg) (filters : FilterSet) (weights : BestValue) (sort : SortSpec)
    {records shuffled : List Flight} (h : records.Perm shuffled) :
    (leg.offers filters weights sort records).length =
        (leg.offers filters weights sort shuffled).length ∧
      ∀ terms, terms ∈ (leg.offers filters weights sort records).map Flight.terms ↔
        terms ∈ (leg.offers filters weights sort shuffled).map Flight.terms := by
  have hperm : ((leg.offers filters weights sort records).map Flight.terms).Perm
      ((leg.offers filters weights sort shuffled).map Flight.terms) := by
    apply (leg.offers_offersOf filters weights sort records).terms_perm
      (leg.offers_offersOf filters weights sort shuffled)
    intro record
    rw [h.mem_iff]
  constructor
  · simpa only [List.length_map] using hperm.length_eq
  · intro terms
    exact hperm.mem_iff

/-- The morning flight at one amount, written with and without a decimal place. -/
def equallyLow : List Flight :=
  [ morningFlight "Traveloka" lowPrice,
    morningFlight "Garuda"
      { lowPrice with
        magnitude := 14000000
        scale := 1
        magnitude_lt := by decide
        scale_le := by decide } ]

theorem offers_of_perm_garuda :
    equallyLow.Perm equallyLow.reverse ∧
      (toDenpasar.offers {} .standard {} equallyLow).length =
        (toDenpasar.offers {} .standard {} equallyLow.reverse).length ∧
      ∀ terms, terms ∈ (toDenpasar.offers {} .standard {} equallyLow).map Flight.terms ↔
        terms ∈ (toDenpasar.offers {} .standard {} equallyLow.reverse).map Flight.terms := by
  have hperm : equallyLow.Perm equallyLow.reverse := (List.reverse_perm equallyLow).symm
  exact ⟨hperm, toDenpasar.offers_of_perm {} .standard {} hperm⟩

end Leg

end FareSearch
