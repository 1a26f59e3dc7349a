import FareSearch.Leg.Eligibility
import FareSearch.Proofs.Money.Value
import FareSearch.Proofs.Money.Writer
import Std.Data.String.ToInt

/-!
# What the key of filters tells

The canonical key of filters writes ten bounds, which cannot contain the comma that separates them,
and then the names of the airlines. It tells all bounds but the fractions of seconds and the seconds
of offsets of the time windows; it tells the airlines as long as no name contains the bar between
them. Filters that agree on all this accept the same flights.
-/

namespace FareSearch

/-- What the text of a timestamp to the second does not tell. -/
def Timestamp.unwritten (stamp : Timestamp) : ℕ × ℤ :=
  (stamp.time.nano, stamp.offset % 60)

namespace FilterSet

variable {left right filters : FilterSet}

/-- The four bounds of the time windows. -/
def windows (filters : FilterSet) : List (Option Timestamp) :=
  [filters.departAfter, filters.departBefore, filters.arriveAfter, filters.arriveBefore]

/-- Filters of the same bounds, prices counted by value and airlines as a set. -/
structure Alike (left right : FilterSet) : Prop where
  minPrice : left.minPrice.map Amount.value = right.minPrice.map Amount.value
  maxPrice : left.maxPrice.map Amount.value = right.maxPrice.map Amount.value
  stops : left.stops = right.stops
  maxStops : left.maxStops = right.maxStops
  minDuration : left.minDuration = right.minDuration
  maxDuration : left.maxDuration = right.maxDuration
  airlines : left.normalizedAirlines = right.normalizedAirlines
  windows : left.windows = right.windows

theorem acceptsPrice_iff (amount : Amount) :
    filters.acceptsPrice amount = true ↔
      (∀ least ∈ filters.minPrice.map Amount.value, least ≤ amount.value) ∧
        ∀ most ∈ filters.maxPrice.map Amount.value, amount.value ≤ most := by
  rw [acceptsPrice, Bool.and_eq_true]
  cases filters.minPrice <;> cases filters.maxPrice <;> simp [Amount.le_iff]

/-- Alike filters accept the same flights. -/
theorem Alike.accepts_eq (h : Alike left right) (flight : Flight) :
    left.accepts flight = right.accepts flight := by
  have hprice : left.acceptsPrice flight.price.amount = right.acceptsPrice flight.price.amount := by
    rw [Bool.eq_iff_iff, acceptsPrice_iff, acceptsPrice_iff, h.minPrice, h.maxPrice]
  have hstops : left.acceptsStops flight.stops = right.acceptsStops flight.stops := by
    rw [acceptsStops, acceptsStops, h.stops, h.maxStops]
  have hduration : left.acceptsDuration flight.durationMinutes =
      right.acceptsDuration flight.durationMinutes := by
    rw [acceptsDuration, acceptsDuration, h.minDuration, h.maxDuration]
  have htimes : left.acceptsTimes flight.departsAt flight.arrivesAt =
      right.acceptsTimes flight.departsAt flight.arrivesAt := by
    obtain ⟨hda, hdb, haa, hab, -⟩ := by
      simpa only [FilterSet.windows, List.cons.injEq] using h.windows
    simp only [acceptsTimes, hda, hdb, haa, hab]
  rw [accepts, accepts, hprice, hstops, hduration, htimes, h.airlines]

/-- Alike filters stay alike on another date. -/
theorem Alike.reanchoredOn (h : Alike left right) (date : Date) :
    Alike (left.reanchoredOn date) (right.reanchoredOn date) where
  minPrice := h.minPrice
  maxPrice := h.maxPrice
  stops := h.stops
  maxStops := h.maxStops
  minDuration := h.minDuration
  maxDuration := h.maxDuration
  airlines := h.airlines
  windows := by
    have hwindows (filters : FilterSet) : (filters.reanchoredOn date).windows =
        filters.windows.map (·.map (·.movedTo date)) := rfl
    rw [hwindows, hwindows, h.windows]

section KeyParts

variable {α : Type} {text : α → String}

theorem keyPart_lacks {c : Char} (h : ∀ value, c ∉ (text value).toList) (bound : Option α) :
    c ∉ (keyPart text bound).toList := by
  cases bound with
  | none => simp [keyPart]
  | some value => exact h value

/-- An absent bound is told from every present one, and of a present one what its text tells. -/
theorem map_eq_of_keyPart_eq {β : Type} {x y : Option α} (told : α → β)
    (hempty : ∀ value, text value ≠ "")
    (htext : ∀ value other, text value = text other → told value = told other)
    (h : keyPart text x = keyPart text y) : x.map told = y.map told := by
  cases x with
  | none =>
    cases y with
    | none => rfl
    | some value => exact absurd h.symm (hempty value)
  | some value =>
    cases y with
    | none => exact absurd h (hempty value)
    | some other => exact congrArg some (htext value other h)

end KeyParts

/-- The bounds as the key writes them. -/
def boundTexts (filters : FilterSet) : List String :=
  [ keyPart (fun amount ↦ amount.normalize.text) filters.minPrice,
    keyPart (fun amount ↦ amount.normalize.text) filters.maxPrice,
    keyPart toString filters.stops,
    keyPart toString filters.maxStops,
    keyPart toString filters.minDuration,
    keyPart toString filters.maxDuration,
    keyPart Calendar.secondsText filters.departAfter,
    keyPart Calendar.secondsText filters.departBefore,
    keyPart Calendar.secondsText filters.arriveAfter,
    keyPart Calendar.secondsText filters.arriveBefore ]

theorem canonicalKey_eq (filters : FilterSet) :
    filters.canonicalKey =
      ",".intercalate (filters.boundTexts ++ ["|".intercalate filters.normalizedAirlines]) :=
  rfl

theorem isNumeral_toString_nat (n : ℕ) : Calendar.IsNumeral (toString n) := by
  intro c hc
  rw [Nat.toString_eq_repr, Nat.toList_repr] at hc
  rw [Calendar.isNumeralChar, Nat.isDigit_of_mem_toDigits (by decide) (by decide) hc]
  rfl

theorem isNumeral_toString_int (n : ℤ) : Calendar.IsNumeral (toString n) := by
  cases n with
  | ofNat n => exact isNumeral_toString_nat n
  | negSucc n => exact .append (by decide) (isNumeral_toString_nat (n + 1))

theorem comma_not_mem_boundTexts (filters : FilterSet) :
    ∀ text ∈ filters.boundTexts, ',' ∉ text.toList := by
  have hamount (amount : Amount) : ',' ∉ amount.normalize.text.toList :=
    amount.normalize.isNumeral_text.lacks rfl
  have hnat (n : ℕ) : ',' ∉ (toString n).toList := (isNumeral_toString_nat n).lacks rfl
  have hint (n : ℤ) : ',' ∉ (toString n).toList := (isNumeral_toString_int n).lacks rfl
  have htime (stamp : Timestamp) : ',' ∉ (Calendar.secondsText stamp).toList :=
    Calendar.secondsText_lacks rfl (by decide) stamp
  simp only [boundTexts, List.forall_mem_cons]
  exact ⟨keyPart_lacks hamount _, keyPart_lacks hamount _, keyPart_lacks hnat _,
    keyPart_lacks hnat _, keyPart_lacks hint _, keyPart_lacks hint _, keyPart_lacks htime _,
    keyPart_lacks htime _, keyPart_lacks htime _, keyPart_lacks htime _, List.forall_mem_nil _⟩

/-- The commas of the key separate the bounds from each other and from the airlines. -/
theorem parts_of_canonicalKey_eq (h : left.canonicalKey = right.canonicalKey) :
    left.boundTexts = right.boundTexts ∧
      "|".intercalate left.normalizedAirlines = "|".intercalate right.normalizedAirlines := by
  rw [canonicalKey_eq, canonicalKey_eq] at h
  obtain ⟨hbounds, hairlines⟩ := Text.intercalate_append_inj (c := ',') rfl
    left.comma_not_mem_boundTexts right.comma_not_mem_boundTexts (by simp) (by simp) rfl h
  rw [String.intercalate_singleton, String.intercalate_singleton] at hairlines
  exact ⟨hbounds, hairlines⟩

theorem value_eq_of_keyPart_eq {x y : Option Amount}
    (h : keyPart (fun amount : Amount ↦ amount.normalize.text) x =
      keyPart (fun amount : Amount ↦ amount.normalize.text) y) :
    x.map Amount.value = y.map Amount.value := by
  refine map_eq_of_keyPart_eq Amount.value (fun amount ↦ amount.normalize.text_ne_empty) ?_ h
  intro amount other htext
  rw [← amount.value_normalize, Amount.text_inj htext, other.value_normalize]

theorem toString_nat_ne_empty (n : ℕ) : toString n ≠ "" := by
  intro h
  have hchars := congrArg String.toList h
  rw [Nat.toString_eq_repr, Nat.toList_repr] at hchars
  exact Nat.toDigits_ne_nil hchars

theorem toString_int_ne_empty (n : ℤ) : toString n ≠ "" := by
  cases n with
  | ofNat n => exact toString_nat_ne_empty n
  | negSucc n =>
    intro h
    have htext : "-" ++ toString (n + 1) = "" := h
    simp at htext

theorem eq_of_keyPart_nat {x y : Option ℕ} (h : keyPart toString x = keyPart toString y) :
    x = y := by
  have hid := map_eq_of_keyPart_eq id toString_nat_ne_empty
    (fun _ _ htext ↦ Nat.repr_injective htext) h
  rwa [Option.map_id, id_eq, id_eq] at hid

theorem eq_of_keyPart_int {x y : Option ℤ} (h : keyPart toString x = keyPart toString y) :
    x = y := by
  have hid := map_eq_of_keyPart_eq id toString_int_ne_empty
    (fun _ _ htext ↦ Int.repr_injective htext) h
  rwa [Option.map_id, id_eq, id_eq] at hid

theorem eq_of_keyPart_secondsText {x y : Option Timestamp}
    (h : keyPart Calendar.secondsText x = keyPart Calendar.secondsText y)
    (hunwritten : x.map Timestamp.unwritten = y.map Timestamp.unwritten) : x = y := by
  have htext := map_eq_of_keyPart_eq Calendar.secondsText Calendar.secondsText_ne_empty
    (fun _ _ hsame ↦ hsame) h
  cases x with
  | none => exact (Option.map_eq_none_iff.mp hunwritten.symm).symm
  | some x =>
    cases y with
    | none => simp at htext
    | some y =>
      simp only [Option.map_some, Option.some.injEq, Timestamp.unwritten, Prod.mk.injEq]
        at htext hunwritten
      rw [Calendar.secondsText_inj htext hunwritten.1 hunwritten.2]

theorem mem_insertName {name other : String} {names : List String}
    (h : other ∈ insertName name names) : other = name ∨ other ∈ names := by
  induction names with
  | nil => exact .inl (List.mem_singleton.mp h)
  | cons first rest ih =>
    rw [insertName] at h
    split at h
    · exact List.mem_cons.mp h
    · split at h
      · exact .inr h
      · rcases List.mem_cons.mp h with rfl | hrest
        · exact .inr List.mem_cons_self
        · exact (ih hrest).imp_right (List.mem_cons_of_mem first)

theorem mem_nameSet {other : String} {names : List String} (h : other ∈ nameSet names) :
    other ∈ names := by
  induction names with
  | nil => exact h
  | cons name rest ih =>
    rcases mem_insertName h with rfl | hrest
    · exact List.mem_cons_self
    · exact List.mem_cons_of_mem name (ih hrest)

theorem ne_empty_of_mem_normalizedAirlines {name : String}
    (h : name ∈ filters.normalizedAirlines) : name ≠ "" := by
  have hkept := (List.mem_filter.mp (mem_nameSet h)).2
  intro hempty
  rw [hempty] at hkept
  exact absurd hkept (by decide)

/-- Filters with one key are alike if no name contains a bar and they agree on what is not
written. -/
theorem alike_of_canonicalKey_eq (h : left.canonicalKey = right.canonicalKey)
    (hleft : ∀ name ∈ left.normalizedAirlines, '|' ∉ name.toList)
    (hright : ∀ name ∈ right.normalizedAirlines, '|' ∉ name.toList)
    (hunwritten : left.windows.map (·.map Timestamp.unwritten) =
      right.windows.map (·.map Timestamp.unwritten)) : Alike left right := by
  obtain ⟨hbounds, hairlines⟩ := parts_of_canonicalKey_eq h
  simp only [boundTexts, List.cons.injEq, and_true] at hbounds
  simp only [windows, List.map_cons, List.map_nil, List.cons.injEq, and_true] at hunwritten
  obtain ⟨hminPrice, hmaxPrice, hstops, hmaxStops, hminDuration, hmaxDuration, hdepartAfter,
    hdepartBefore, harriveAfter, harriveBefore⟩ := hbounds
  obtain ⟨hdepartAfter', hdepartBefore', harriveAfter', harriveBefore'⟩ := hunwritten
  exact {
    minPrice := value_eq_of_keyPart_eq hminPrice
    maxPrice := value_eq_of_keyPart_eq hmaxPrice
    stops := eq_of_keyPart_nat hstops
    maxStops := eq_of_keyPart_nat hmaxStops
    minDuration := eq_of_keyPart_int hminDuration
    maxDuration := eq_of_keyPart_int hmaxDuration
    airlines := Text.intercalate_inj (c := '|') rfl
      (fun _ hname ↦ ne_empty_of_mem_normalizedAirlines hname)
      (fun _ hname ↦ ne_empty_of_mem_normalizedAirlines hname) hleft hright hairlines
    windows := by
      rw [windows, windows, eq_of_keyPart_secondsText hdepartAfter hdepartAfter',
        eq_of_keyPart_secondsText hdepartBefore hdepartBefore',
        eq_of_keyPart_secondsText harriveAfter harriveAfter',
        eq_of_keyPart_secondsText harriveBefore harriveBefore'] }

end FilterSet

end FareSearch
