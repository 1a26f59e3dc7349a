import FareSearch.Leg.Ranking
import FareSearch.Proofs.Calendar.Instant
import FareSearch.Proofs.Money.Value
import Mathlib.Data.Int.ConditionallyCompleteOrder
import Mathlib.Data.List.Sort
import Mathlib.Order.WithBot

/-!
# The order of flights

Flights are compared by one field: amounts by value, durations by minutes, times by instant with a
missing one first, and scores by the total order of the bits of doubles. Sorting by such a
comparison is stable in both directions, and nothing else is a stable sort. So sorting a second time
changes nothing, and the descending order of a list is the ascending one of its reverse, reversed.
-/

namespace FareSearch

section StableSort

variable {α : Type} {before : α → α → Prop} [DecidableRel before] {items sorted : List α}

/-- The items of a list in a new order: of any two the earlier one may stand before the later one,
and the items that compare equal to a given one keep their order. -/
structure StablySorted (before : α → α → Prop) [DecidableRel before] (items sorted : List α) :
    Prop where
  perm : sorted.Perm items
  ordered : sorted.Pairwise before
  ties : ∀ item, sorted.filter (fun other ↦ before item other ∧ before other item) =
    items.filter (fun other ↦ before item other ∧ before other item)

/-- At most one list is a stable sort of another. -/
theorem StablySorted.eq {sorted' : List α} [Std.Refl before]
    (h : StablySorted before items sorted) (h' : StablySorted before items sorted') :
    sorted = sorted' := by
  have hperm : sorted.Perm sorted' := h.perm.trans h'.perm.symm
  have hties (item : α) := (h.ties item).trans (h'.ties item).symm
  have hordered := h.ordered
  have hordered' := h'.ordered
  clear h h'
  induction sorted generalizing sorted' with
  | nil => exact hperm.nil_eq
  | cons first rest ih =>
    cases sorted' with
    | nil => exact absurd hperm.length_eq (by simp)
    | cons first' rest' =>
      have hself (item : α) : before item item := Std.Refl.refl item
      -- Each of the two heads occurs in the other list, so that they compare equal.
      have hle : before first first' :=
        hordered.rel_head (hperm.mem_iff.mpr List.mem_cons_self)
      have hge : before first' first :=
        hordered'.rel_head (hperm.mem_iff.mp List.mem_cons_self)
      obtain rfl : first = first' := by
        have hfirst := hties first
        rw [List.filter_cons_of_pos (by simpa using hself first),
          List.filter_cons_of_pos (by simpa using ⟨hle, hge⟩)] at hfirst
        exact (List.cons.inj hfirst).1
      have hrest : rest = rest' := by
        apply ih (List.perm_cons first |>.mp hperm) _ hordered.of_cons hordered'.of_cons
        intro item
        have hitem := hties item
        by_cases htie : before item first ∧ before first item
        · rw [List.filter_cons_of_pos (by simpa using htie),
            List.filter_cons_of_pos (by simpa using htie)] at hitem
          exact (List.cons.inj hitem).2
        · rwa [List.filter_cons_of_neg (by simpa using htie),
            List.filter_cons_of_neg (by simpa using htie)] at hitem
      rw [hrest]

theorem StablySorted.reverse (h : StablySorted before items sorted) :
    StablySorted (fun left right ↦ before right left) items.reverse sorted.reverse where
  perm := (List.reverse_perm sorted).trans (h.perm.trans (List.reverse_perm items).symm)
  ordered := List.pairwise_reverse.mpr h.ordered
  ties item := by
    have hflip : (fun other ↦ decide (before other item ∧ before item other)) =
        fun other ↦ decide (before item other ∧ before other item) :=
      funext fun other ↦ decide_eq_decide.mpr and_comm
    rw [List.filter_reverse, List.filter_reverse, hflip, h.ties item]

variable [Std.Total before] [IsTrans α before]

theorem stablySorted_mergeSort (items : List α) :
    StablySorted before items (items.mergeSort (before · ·)) where
  perm := List.mergeSort_perm items _
  ordered := List.pairwise_mergeSort' before items
  ties item := by
    have hties : (items.filter fun other ↦ before item other ∧ before other item).Pairwise
        before := by
      rw [List.pairwise_filter]
      apply List.pairwise_of_forall
      intro left right hleft hright
      exact IsTrans.trans left item right (of_decide_eq_true hleft).2 (of_decide_eq_true hright).1
    -- The items that compare equal are in order already, so that they stay a sublist.
    have hsublist : (items.filter fun other ↦ before item other ∧ before other item).Sublist
        (items.mergeSort (before · ·)) := by
      apply List.sublist_mergeSort _ _ (by simpa using hties) List.filter_sublist
      · simpa using fun a b c ↦ IsTrans.trans (r := before) a b c
      · simpa using Std.Total.total (r := before)
    have hfiltered := hsublist.filter fun other ↦ decide (before item other ∧ before other item)
    rw [List.filter_filter] at hfiltered
    simp only [Bool.and_self] at hfiltered
    exact (hfiltered.eq_of_length
      ((List.mergeSort_perm items _).symm.filter _).length_eq).symm

end StableSort

namespace Number

/-- The bits of a double without its sign. -/
def unsigned (bits : UInt64) : ℕ :=
  bits.toNat % twoPow 63

/-- Whether the sign bit of a double is set. -/
def Signed (bits : UInt64) : Prop :=
  twoPow 63 ≤ bits.toNat

/-- The total order of IEEE 754 on all bit patterns. It is that of the numbers, except that a
negative zero comes before the other one and that what is no number lies beyond both infinities. -/
def TotalLe (left right : UInt64) : Prop :=
  Signed left ∧ ¬Signed right ∨
    Signed left ∧ Signed right ∧ unsigned right ≤ unsigned left ∨
    ¬Signed left ∧ ¬Signed right ∧ unsigned left ≤ unsigned right

/-- The place of a bit pattern in the total order. -/
def place (bits : UInt64) : ℤ :=
  if bits.toNat < twoPow 63 then bits.toNat else -(Int.ofNat (bits.toNat - twoPow 63)) - 1

theorem place_le_iff (left right : UInt64) : place left ≤ place right ↔ TotalLe left right := by
  have htwice : UInt64.size = 2 * twoPow 63 := rfl
  have hleft := left.toNat_lt_size
  have hright := right.toNat_lt_size
  simp only [place, TotalLe, Signed, unsigned, Int.ofNat_eq_natCast]
  generalize twoPow 63 = half at *
  have hrest (bits : UInt64) (h : bits.toNat < 2 * half) :
      bits.toNat % half = if bits.toNat < half then bits.toNat else bits.toNat - half := by
    split_ifs with hless
    · exact Nat.mod_eq_of_lt hless
    · rw [Nat.mod_eq_sub_mod (by omega), Nat.mod_eq_of_lt (by omega)]
  rw [hrest left (htwice ▸ hleft), hrest right (htwice ▸ hright)]
  split_ifs <;> omega

theorem orderKey_le_iff (left right : Float) :
    orderKey left ≤ orderKey right ↔ TotalLe left.toBits right.toBits :=
  place_le_iff left.toBits right.toBits

end Number

/-- The instant of a time that may be missing; a missing one comes first. -/
def instantOrFirst (time : Option Timestamp) : WithBot (ℤ ×ₗ ℕ) :=
  time.map Timestamp.instant

namespace SortField

/-- In one field a flight is not greater than another. -/
def NotAfter (field : SortField) (left right : Flight) : Prop :=
  match field with
  | .price => left.price.amount.value ≤ right.price.amount.value
  | .duration => left.durationMinutes ≤ right.durationMinutes
  | .departure => instantOrFirst left.departsAt ≤ instantOrFirst right.departsAt
  | .arrival => instantOrFirst left.arrivesAt ≤ instantOrFirst right.arrivesAt
  | .bestValue => Number.TotalLe left.bestValueScore.toBits right.bestValueScore.toBits

theorem timeLe_iff (left right : Option Timestamp) :
    timeLe left right = true ↔ instantOrFirst left ≤ instantOrFirst right := by
  cases left with
  | none => exact iff_of_true rfl bot_le
  | some left =>
    cases right with
    | none => exact iff_of_false Bool.false_ne_true (WithBot.not_coe_le_bot _)
    | some right => exact Timestamp.le_iff.trans WithBot.coe_le_coe.symm

theorem le_iff (field : SortField) (left right : Flight) :
    field.le left right = true ↔ field.NotAfter left right := by
  cases field with
  | price => exact Amount.le_iff _ _
  | duration => exact decide_eq_true_iff
  | departure => exact timeLe_iff _ _
  | arrival => exact timeLe_iff _ _
  | bestValue => exact decide_eq_true_iff.trans (Number.orderKey_le_iff _ _)

/-- Each field compares flights by a reading of them in a linear order. -/
theorem notAfter_total (field : SortField) (left right : Flight) :
    field.NotAfter left right ∨ field.NotAfter right left := by
  cases field with
  | price => exact le_total _ _
  | duration => exact le_total _ _
  | departure => exact le_total _ _
  | arrival => exact le_total _ _
  | bestValue => simpa only [NotAfter, ← Number.place_le_iff] using le_total _ _

theorem notAfter_trans (field : SortField) {left middle right : Flight}
    (h : field.NotAfter left middle) (h' : field.NotAfter middle right) :
    field.NotAfter left right := by
  cases field with
  | price => exact le_trans h h'
  | duration => exact le_trans h h'
  | departure => exact le_trans h h'
  | arrival => exact le_trans h h'
  | bestValue =>
    simp only [NotAfter, ← Number.place_le_iff] at h h' ⊢
    exact le_trans h h'

end SortField

namespace SortSpec

/-- A flight may stand before another: it is not greater in ascending order and not less in
descending order. -/
def NotAfter (spec : SortSpec) (left right : Flight) : Prop :=
  match spec.order with
  | .ascending => spec.field.NotAfter left right
  | .descending => spec.field.NotAfter right left

theorem le_iff (spec : SortSpec) (left right : Flight) :
    spec.le left right = true ↔ spec.NotAfter left right := by
  unfold le NotAfter
  cases spec.order <;> exact SortField.le_iff _ _ _

instance decidableNotAfter (spec : SortSpec) : DecidableRel spec.NotAfter :=
  fun left right ↦ decidable_of_iff _ (spec.le_iff left right)

instance notAfter_total (spec : SortSpec) : Std.Total spec.NotAfter where
  total left right := by
    unfold NotAfter
    cases spec.order with
    | ascending => exact spec.field.notAfter_total left right
    | descending => exact spec.field.notAfter_total right left

instance notAfter_trans (spec : SortSpec) : IsTrans Flight spec.NotAfter where
  trans left middle right h h' := by
    unfold NotAfter at *
    cases horder : spec.order with
    | ascending =>
      simp only [horder] at h h'
      exact spec.field.notAfter_trans h h'
    | descending =>
      simp only [horder] at h h'
      exact spec.field.notAfter_trans h' h

end SortSpec

theorem stablySorted_sortFlights (spec : SortSpec) (flights : List Flight) :
    StablySorted spec.NotAfter flights (sortFlights spec flights) := by
  have hle : spec.le = fun left right ↦ decide (spec.NotAfter left right) := by
    funext left right
    exact Bool.eq_iff_iff.mpr ((spec.le_iff left right).trans decide_eq_true_iff.symm)
  rw [sortFlights, hle]
  exact stablySorted_mergeSort flights

/-- A list in order is left as it is. -/
theorem sortFlights_of_pairwise {spec : SortSpec} {flights : List Flight}
    (h : flights.Pairwise spec.NotAfter) : sortFlights spec flights = flights :=
  (stablySorted_sortFlights spec flights).eq ⟨List.Perm.refl flights, h, fun _ ↦ rfl⟩

/-- Descending order keeps ties: it is the ascending order of the reverse, reversed. -/
theorem sortFlights_descending (field : SortField) (flights : List Flight) :
    sortFlights ⟨field, .descending⟩ flights =
      (sortFlights ⟨field, .ascending⟩ flights.reverse).reverse := by
  have hreverse := (stablySorted_sortFlights ⟨field, .ascending⟩ flights.reverse).reverse
  rw [List.reverse_reverse] at hreverse
  exact (stablySorted_sortFlights ⟨field, .descending⟩ flights).eq hreverse

/-- Ordering flights is the stable sort by the requested comparison, in both directions. -/
theorem sortFlights_stable (spec : SortSpec) (flights : List Flight) :
    StablySorted spec.NotAfter flights (sortFlights spec flights) ∧
      (∀ sorted, StablySorted spec.NotAfter flights sorted →
        sorted = sortFlights spec flights) ∧
      sortFlights spec (sortFlights spec flights) = sortFlights spec flights ∧
      sortFlights ⟨spec.field, .descending⟩ flights =
        (sortFlights ⟨spec.field, .ascending⟩ flights.reverse).reverse := by
  have hsorted := stablySorted_sortFlights spec flights
  exact ⟨hsorted, fun sorted h ↦ h.eq hsorted, sortFlights_of_pairwise hsorted.ordered,
    sortFlights_descending spec.field flights⟩

end FareSearch
