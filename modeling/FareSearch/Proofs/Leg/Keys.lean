import FareSearch.Flight.Wire
import FareSearch.Proofs.Calendar.Regular
import FareSearch.Proofs.Criteria.FilterKey
import FareSearch.Proofs.Leg.Duplicates
import FareSearch.Proofs.Leg.Offers
import FareSearch.Proofs.Text.Joined

/-!
# What the key of a record tells

The key of a record joins four free texts and two times with bars. The times contain no bar, so the
key always tells them as far as it writes them. It tells the four texts, but for letter case, just
when the other record has its bars in the same texts. Records of one flight have one key, and
records with one key are of one flight unless they differ in what the key leaves unsaid.
-/

namespace FareSearch

namespace Timestamp

/-- The timestamp without the fraction of its second. A leap second stays one. -/
def toSecond (stamp : Timestamp) : Timestamp :=
  { stamp with time := { stamp.time with nano := stamp.time.nano / 1000000000 * 1000000000 } }

end Timestamp

section TimeKeys

variable {x y : Option Timestamp}

theorem timeKey_eq_keyPart (time : Option Timestamp) :
    timeKey time = FilterSet.keyPart Calendar.secondsText time := by
  cases time <;> rfl

theorem secondsText_toSecond (stamp : Timestamp) :
    Calendar.secondsText stamp.toSecond = Calendar.secondsText stamp := by
  have hleap : stamp.toSecond.time.nano < 1000000000 ↔ stamp.time.nano < 1000000000 := by
    unfold Timestamp.toSecond
    dsimp only
    omega
  simp only [Calendar.secondsText, Calendar.clockText, hleap]
  rfl

theorem timeKey_map_toSecond (time : Option Timestamp) :
    timeKey (time.map Timestamp.toSecond) = timeKey time := by
  cases time with
  | none => rfl
  | some stamp => exact secondsText_toSecond stamp

/-- Times agree to the second if their keys do and so does what keys do not write. -/
theorem toSecond_eq_iff :
    x.map Timestamp.toSecond = y.map Timestamp.toSecond ↔
      timeKey x = timeKey y ∧
        x.map (·.toSecond.unwritten) = y.map (·.toSecond.unwritten) := by
  have hunwritten (time : Option Timestamp) : time.map (·.toSecond.unwritten) =
      (time.map Timestamp.toSecond).map Timestamp.unwritten := by
    rw [Option.map_map]
    rfl
  constructor
  · intro h
    rw [← timeKey_map_toSecond x, ← timeKey_map_toSecond y, hunwritten, hunwritten, h]
    exact ⟨rfl, rfl⟩
  · rintro ⟨hkey, hsame⟩
    apply FilterSet.eq_of_keyPart_secondsText
    · rw [← timeKey_eq_keyPart, ← timeKey_eq_keyPart, timeKey_map_toSecond, timeKey_map_toSecond,
        hkey]
    · rw [← hunwritten, ← hunwritten, hsame]

/-- Nothing is left unsaid of regular timestamps. -/
theorem unwritten_eq_of_isRegular {left right : Timestamp} (hleft : left.IsRegular)
    (hright : right.IsRegular)
    (h : Calendar.secondsText left = Calendar.secondsText right) :
    left.toSecond.unwritten = right.toSecond.unwritten := by
  obtain ⟨-, hclock, -⟩ := Calendar.parts_of_secondsText_eq h
  obtain ⟨-, -, hsecond⟩ := Calendar.parts_of_clockText_eq hclock
  have hwritten {nano : ℕ} (h : nano < 2000000000) :
      (if nano < 1000000000 then 0 else 1) = nano / 1000000000 := by
    by_cases hplain : nano < 1000000000
    · rw [if_pos hplain, Nat.div_eq_of_lt hplain]
    · rw [if_neg hplain]
      omega
  have hnano : left.time.nano / 1000000000 = right.time.nano / 1000000000 := by
    rw [hwritten hleft.nano, hwritten hright.nano] at hsecond
    have hleftLeap := hleft.leap
    have hrightLeap := hright.leap
    have hleftNano := hleft.nano
    have hrightNano := hright.nano
    omega
  apply Prod.ext
  · exact congrArg (· * 1000000000) hnano
  · exact hleft.offset.trans hright.offset.symm

theorem isAscii_of_mem_secondsText {stamp : Timestamp} {c : Char}
    (h : c ∈ (Calendar.secondsText stamp).toList) :
    c.toNat < 128 ∧ Text.asciiUpperChar (Text.asciiLowerChar c) = c := by
  by_cases hmark : c = 'T'
  · rw [hmark]
    decide
  · have hnumeral : Calendar.isNumeralChar c = true := by
      by_contra hother
      exact Calendar.secondsText_lacks (Bool.eq_false_iff.mpr hother) hmark stamp h
    have hascii : c.toNat < 128 := by
      simp only [Calendar.isNumeralChar, Char.isDigit, Bool.or_eq_true, Bool.and_eq_true,
        decide_eq_true_eq, beq_iff_eq] at hnumeral
      rcases hnumeral with (((⟨-, hdigit⟩ | rfl) | rfl) | rfl) | rfl
      · exact Nat.lt_of_le_of_lt (UInt32.le_iff_toNat_le.mp hdigit) (by decide)
      all_goals decide
    refine ⟨hascii, ?_⟩
    exact Text.ascii_forall (motive := fun c ↦ Calendar.isNumeralChar c = true →
      Text.asciiUpperChar (Text.asciiLowerChar c) = c) (by decide) hascii hnumeral

/-- In small letters the key of a time is the same but for its mark. -/
theorem asciiUpper_lowercase_timeKey (time : Option Timestamp) :
    Text.asciiUpper (Text.lowercase (timeKey time)) = timeKey time := by
  have hchars : ∀ c ∈ (timeKey time).toList,
      c.toNat < 128 ∧ Text.asciiUpperChar (Text.asciiLowerChar c) = c := by
    intro c hc
    cases time with
    | none => cases hc
    | some stamp => exact isAscii_of_mem_secondsText hc
  rw [Text.lowercase_of_ascii fun c hc ↦ (hchars c hc).1, ← String.toList_inj]
  calc
    (Text.asciiUpper (Text.asciiLower (timeKey time))).toList =
        (timeKey time).toList.map (Text.asciiUpperChar ∘ Text.asciiLowerChar) := by
      rw [Text.asciiUpper, Text.asciiLower, String.toList_map, String.toList_map, List.map_map]
    _ = (timeKey time).toList.map id := List.map_congr_left fun c hc ↦ (hchars c hc).2
    _ = (timeKey time).toList := List.map_id _

theorem lowercase_timeKey_inj (h : Text.lowercase (timeKey x) = Text.lowercase (timeKey y)) :
    timeKey x = timeKey y := by
  rw [← asciiUpper_lowercase_timeKey x, h, asciiUpper_lowercase_timeKey]

theorem bar_not_mem_lowercase_timeKey (time : Option Timestamp) :
    '|' ∉ (Text.lowercase (timeKey time)).toList := by
  rw [← Text.bars_eq_zero, Text.bars_lowercase, Text.bars_eq_zero, timeKey_eq_keyPart]
  exact FilterSet.keyPart_lacks (Calendar.secondsText_lacks rfl (by decide)) time

end TimeKeys

namespace Flight

variable {left right flight : Flight}

/-- The free texts of a key. -/
def keyTexts (flight : Flight) : List String :=
  [ flight.airline.code,
    flight.flightNumber,
    flight.departure.airport,
    flight.arrival.airport ]

/-- Records of one flight: airline code, flight number and airports agree but for letter case, and
the times to the second, with their offsets. -/
structure SameFlight (left right : Flight) : Prop where
  code : Text.lowercase left.airline.code = Text.lowercase right.airline.code
  number : Text.lowercase left.flightNumber = Text.lowercase right.flightNumber
  origin : Text.lowercase left.departure.airport = Text.lowercase right.departure.airport
  destination : Text.lowercase left.arrival.airport = Text.lowercase right.arrival.airport
  departs : left.departsAt.map Timestamp.toSecond = right.departsAt.map Timestamp.toSecond
  arrives : left.arrivesAt.map Timestamp.toSecond = right.arrivesAt.map Timestamp.toSecond

/-- What the key of a record leaves unsaid: how many of its bars belong to which text, and of the
times the seconds of their offsets and whether a second is a leap second. -/
def unsaid (flight : Flight) : List ℕ × List (Option (ℕ × ℤ)) :=
  (flight.keyTexts.map Text.bars,
    [flight.departsAt, flight.arrivesAt].map (·.map (·.toSecond.unwritten)))

/-- A record whose texts contain no bar and whose times are regular. -/
structure IsPlain (flight : Flight) : Prop where
  texts : ∀ text ∈ flight.keyTexts, '|' ∉ text.toList
  times : ∀ time ∈ [flight.departsAt, flight.arrivesAt], ∀ stamp ∈ time, stamp.IsRegular

instance (flight : Flight) : Decidable flight.IsPlain :=
  decidable_of_iff ((∀ text ∈ flight.keyTexts, '|' ∉ text.toList) ∧
      ∀ time ∈ [flight.departsAt, flight.arrivesAt], ∀ stamp ∈ time, stamp.IsRegular)
    ⟨fun h ↦ ⟨h.1, h.2⟩, fun h ↦ ⟨h.texts, h.times⟩⟩

theorem sameFlight_iff_keyTexts :
    left.SameFlight right ↔
      left.keyTexts.map Text.lowercase = right.keyTexts.map Text.lowercase ∧
        left.departsAt.map Timestamp.toSecond = right.departsAt.map Timestamp.toSecond ∧
        left.arrivesAt.map Timestamp.toSecond = right.arrivesAt.map Timestamp.toSecond := by
  simp only [keyTexts, List.map_cons, List.map_nil, List.cons.injEq, and_true]
  constructor
  · intro h
    exact ⟨⟨h.code, h.number, h.origin, h.destination⟩, h.departs, h.arrives⟩
  · rintro ⟨⟨hcode, hnumber, horigin, hdestination⟩, hdeparts, harrives⟩
    exact ⟨hcode, hnumber, horigin, hdestination, hdeparts, harrives⟩

theorem dedupKey_eq (flight : Flight) :
    flight.dedupKey =
      "|".intercalate (flight.keyTexts.map Text.lowercase) ++ "|" ++
        Text.lowercase (timeKey flight.departsAt) ++ "|" ++
        Text.lowercase (timeKey flight.arrivesAt) := by
  calc
    flight.dedupKey =
        Text.lowercase ("|".intercalate
          (flight.keyTexts ++ [timeKey flight.departsAt, timeKey flight.arrivesAt])) := rfl
    _ = "|".intercalate (flight.keyTexts.map Text.lowercase) ++ "|" ++
        "|".intercalate ([timeKey flight.departsAt, timeKey flight.arrivesAt].map
          Text.lowercase) := by
      rw [Text.lowercase_intercalate_bar, List.map_append,
        String.intercalate_append_of_ne_nil (by simp [keyTexts]) (by simp)]
    _ = _ := by
      simp only [List.map_cons, List.map_nil, String.intercalate_cons_cons,
        String.intercalate_singleton, String.append_assoc]

/-- What equal keys say, for any two records. -/
theorem dedupKey_eq_iff :
    left.dedupKey = right.dedupKey ↔
      "|".intercalate (left.keyTexts.map Text.lowercase) =
          "|".intercalate (right.keyTexts.map Text.lowercase) ∧
        timeKey left.departsAt = timeKey right.departsAt ∧
        timeKey left.arrivesAt = timeKey right.arrivesAt := by
  rw [dedupKey_eq, dedupKey_eq]
  constructor
  · intro h
    obtain ⟨hrest, harrives⟩ := Text.cut_last (c := '|') rfl (bar_not_mem_lowercase_timeKey _)
      (bar_not_mem_lowercase_timeKey _) h
    obtain ⟨htexts, hdeparts⟩ := Text.cut_last (c := '|') rfl (bar_not_mem_lowercase_timeKey _)
      (bar_not_mem_lowercase_timeKey _) hrest
    exact ⟨htexts, lowercase_timeKey_inj hdeparts, lowercase_timeKey_inj harrives⟩
  · rintro ⟨htexts, hdeparts, harrives⟩
    rw [htexts, hdeparts, harrives]

/-- Texts that are equal but for letter case have equally many bars, and joined texts with equally
many bars are told by their join. -/
theorem lowercase_keyTexts_eq_iff :
    left.keyTexts.map Text.lowercase = right.keyTexts.map Text.lowercase ↔
      "|".intercalate (left.keyTexts.map Text.lowercase) =
          "|".intercalate (right.keyTexts.map Text.lowercase) ∧
        left.keyTexts.map Text.bars = right.keyTexts.map Text.bars := by
  have hbars (texts : List String) :
      (texts.map Text.lowercase).map Text.bars = texts.map Text.bars := by
    have hfun : Text.bars ∘ Text.lowercase = Text.bars := funext Text.bars_lowercase
    rw [List.map_map, hfun]
  constructor
  · intro h
    rw [← hbars left.keyTexts, ← hbars right.keyTexts, h]
    exact ⟨rfl, rfl⟩
  · rintro ⟨hjoined, hcounts⟩
    have hseparator : "|".toList = ['|'] := rfl
    apply Text.intercalate_inj_of_count hseparator _ hjoined
    calc
      (left.keyTexts.map Text.lowercase).map Text.bars = left.keyTexts.map Text.bars := hbars _
      _ = right.keyTexts.map Text.bars := hcounts
      _ = (right.keyTexts.map Text.lowercase).map Text.bars := (hbars _).symm

/-- Two records are of one flight if they have one key and do not differ in what it leaves
unsaid. -/
theorem sameFlight_iff :
    left.SameFlight right ↔ left.dedupKey = right.dedupKey ∧ left.unsaid = right.unsaid := by
  have hunsaid : left.unsaid = right.unsaid ↔
      left.keyTexts.map Text.bars = right.keyTexts.map Text.bars ∧
        left.departsAt.map (·.toSecond.unwritten) = right.departsAt.map (·.toSecond.unwritten) ∧
        left.arrivesAt.map (·.toSecond.unwritten) = right.arrivesAt.map (·.toSecond.unwritten) := by
    simp only [unsaid, Prod.mk.injEq, List.map_cons, List.map_nil, List.cons.injEq, and_true]
  rw [sameFlight_iff_keyTexts, lowercase_keyTexts_eq_iff, toSecond_eq_iff, toSecond_eq_iff,
    dedupKey_eq_iff, hunsaid]
  constructor
  · rintro ⟨⟨htexts, hbars⟩, ⟨hdeparts, hleaves⟩, harrives, hreaches⟩
    exact ⟨⟨htexts, hdeparts, harrives⟩, hbars, hleaves, hreaches⟩
  · rintro ⟨⟨htexts, hdeparts, harrives⟩, hbars, hleaves, hreaches⟩
    exact ⟨⟨htexts, hbars⟩, ⟨hdeparts, hleaves⟩, harrives, hreaches⟩

theorem SameFlight.dedupKey_eq (h : left.SameFlight right) : left.dedupKey = right.dedupKey :=
  (sameFlight_iff.mp h).1

/-- The key of a plain record leaves nothing unsaid. -/
theorem IsPlain.unsaid_eq (hleft : left.IsPlain) (hright : right.IsPlain)
    (h : left.dedupKey = right.dedupKey) : left.unsaid = right.unsaid := by
  obtain ⟨-, hdeparts, harrives⟩ := dedupKey_eq_iff.mp h
  have hbars {flight : Flight} (hplain : flight.IsPlain) :
      flight.keyTexts.map Text.bars = [0, 0, 0, 0] := by
    have hzero : ∀ text ∈ flight.keyTexts, Text.bars text = 0 := fun text htext ↦
      Text.bars_eq_zero.mpr (hplain.texts text htext)
    rw [List.map_congr_left hzero]
    rfl
  have htimes {x y : Option Timestamp} (hx : ∀ stamp ∈ x, stamp.IsRegular)
      (hy : ∀ stamp ∈ y, stamp.IsRegular) (hkey : timeKey x = timeKey y) :
      x.map (·.toSecond.unwritten) = y.map (·.toSecond.unwritten) := by
    cases x with
    | none =>
      cases y with
      | none => rfl
      | some stamp => exact absurd hkey.symm (Calendar.secondsText_ne_empty stamp)
    | some stamp =>
      cases y with
      | none => exact absurd hkey (Calendar.secondsText_ne_empty stamp)
      | some other =>
        exact congrArg some (unwritten_eq_of_isRegular (hx stamp rfl) (hy other rfl) hkey)
  have hleftTimes := List.forall_mem_cons.mp hleft.times
  have hrightTimes := List.forall_mem_cons.mp hright.times
  rw [unsaid, unsaid, hbars hleft, hbars hright]
  simp only [List.map_cons, List.map_nil]
  rw [htimes hleftTimes.1 hrightTimes.1 hdeparts,
    htimes (hleftTimes.2 _ (List.mem_singleton_self _))
      (hrightTimes.2 _ (List.mem_singleton_self _)) harrives]

section Reading

variable {json : Json}

theorem isRegular_of_optional {entry : Json.Entry} {time : Option Timestamp}
    (h : entry.optional Calendar.timestampOfJson? = some time) :
    ∀ stamp ∈ time, stamp.IsRegular := by
  have hread {value : Json} {stamp : Timestamp} (h : Calendar.timestampOfJson? value = some stamp) :
      stamp.IsRegular := by
    unfold Calendar.timestampOfJson? at h
    split at h
    next => exact Calendar.isRegular_of_timestamp? h
    next => cases h
  unfold Json.Entry.optional at h
  split at h
  next => cases h; exact fun _ hstamp ↦ nomatch hstamp
  next =>
    obtain ⟨stamp, hstamp, rfl⟩ := Option.map_eq_some_iff.mp h
    intro other hother
    exact Option.some.inj hother ▸ hread hstamp
  next => cases h; exact fun _ hstamp ↦ nomatch hstamp
  next => cases h

theorem isRegular_of_pointOfJson? {point : FlightPoint}
    (h : FlightPoint.ofJson? json = some point) : ∀ stamp ∈ point.time, stamp.IsRegular := by
  unfold FlightPoint.ofJson? at h
  simp only [Option.bind_eq_bind, Option.bind_eq_some_iff] at h
  obtain ⟨_, -, hentries⟩ := h
  split at hentries
  next =>
    simp only [Option.bind_eq_some_iff, Option.pure_def, Option.some.injEq] at hentries
    obtain ⟨_, -, _, -, time, htime, rfl⟩ := hentries
    exact isRegular_of_optional htime
  next => cases hentries

theorem exists_pointOfJson? {entry : Json.Entry} {point : FlightPoint}
    (h : entry.required FlightPoint.ofJson? = some point) :
    ∃ json, FlightPoint.ofJson? json = some point := by
  cases entry with
  | given json => exact ⟨json, h⟩
  | missing => cases h
  | cutOff => cases h

/-- Of the records that are read those are plain whose texts contain no bar. -/
theorem isPlain_of_ofJson? (h : ofJson? json = some flight)
    (htexts : ∀ text ∈ flight.keyTexts, '|' ∉ text.toList) : flight.IsPlain := by
  refine ⟨htexts, ?_⟩
  unfold ofJson? at h
  obtain ⟨_, -, hentries⟩ := Option.bind_eq_some_iff.mp h
  split at hentries
  next =>
    -- Nine fields follow the two points, of which nothing is needed.
    iterate 4 obtain ⟨_, -, hentries⟩ := Option.bind_eq_some_iff.mp hentries
    obtain ⟨departure, hdeparture, hentries⟩ := Option.bind_eq_some_iff.mp hentries
    obtain ⟨arrival, harrival, hentries⟩ := Option.bind_eq_some_iff.mp hentries
    iterate 9 obtain ⟨_, -, hentries⟩ := Option.bind_eq_some_iff.mp hentries
    cases hentries
    obtain ⟨_, hdeparture⟩ := exists_pointOfJson? hdeparture
    obtain ⟨_, harrival⟩ := exists_pointOfJson? harrival
    simp only [List.forall_mem_cons]
    exact ⟨isRegular_of_pointOfJson? hdeparture, isRegular_of_pointOfJson? harrival,
      List.forall_mem_nil _⟩
  next => cases hentries

end Reading

end Flight

/-- The kept records have distinct keys. -/
theorem eq_of_mem_deduplicate {flights : List Flight} {kept other : Flight}
    (hkept : kept ∈ deduplicate flights) (hother : other ∈ deduplicate flights)
    (hkey : other.dedupKey = kept.dedupKey) : other = kept :=
  List.inj_on_of_nodup_map (deduplicate_keys_nodup flights) hother hkept hkey

/-- Joining duplicates keeps one record with the key of a given one, and that one is of the same
flight just if it does not differ in what keys leave unsaid; no other kept record is. Among plain
records keys tell flights, so that no flight is lost; of the records that are read those are plain
whose texts contain no bar. -/
theorem deduplicate_keeps_flight (flights : List Flight) :
    (∀ record ∈ flights, ∃ kept ∈ deduplicate flights, kept.dedupKey = record.dedupKey ∧
      (kept.SameFlight record ↔ kept.unsaid = record.unsaid) ∧
      ∀ other ∈ deduplicate flights, other.SameFlight record → other = kept) ∧
    ((∀ record ∈ flights, record.IsPlain) →
      ∀ record ∈ flights, ∃ kept ∈ deduplicate flights, kept.SameFlight record) ∧
    (∀ left right : Flight,
      (left.SameFlight right ↔ left.dedupKey = right.dedupKey ∧ left.unsaid = right.unsaid) ∧
      (left.IsPlain → right.IsPlain →
        (left.dedupKey = right.dedupKey ↔ left.SameFlight right))) ∧
    ∀ json record, Flight.ofJson? json = some record →
      (record.IsPlain ↔ ∀ text ∈ record.keyTexts, '|' ∉ text.toList) := by
  have hkept {record : Flight} (hrecord : record ∈ flights) :
      ∃ kept ∈ deduplicate flights, kept.dedupKey = record.dedupKey := by
    apply List.mem_map.mp
    rw [mem_deduplicate_keys]
    exact List.mem_map_of_mem hrecord
  have hplain {left right : Flight} (hleft : left.IsPlain) (hright : right.IsPlain)
      (hkey : left.dedupKey = right.dedupKey) : left.SameFlight right :=
    Flight.sameFlight_iff.mpr ⟨hkey, hleft.unsaid_eq hright hkey⟩
  refine ⟨?kept, ?plain, ?pairs,
    fun _ _ hread ↦ ⟨Flight.IsPlain.texts, Flight.isPlain_of_ofJson? hread⟩⟩
  case kept =>
    intro record hrecord
    obtain ⟨kept, hmem, hkey⟩ := hkept hrecord
    refine ⟨kept, hmem, hkey, ?_, ?_⟩
    · rw [Flight.sameFlight_iff]
      exact and_iff_right hkey
    · intro other hother hsame
      exact eq_of_mem_deduplicate hmem hother (hsame.dedupKey_eq.trans hkey.symm)
  case plain =>
    intro hall record hrecord
    obtain ⟨kept, hmem, hkey⟩ := hkept hrecord
    have hstanding := standing_mem (mem_deduplicate_iff.mp hmem)
    have hgiven : kept ∈ flights := (List.mem_filter.mp hstanding).1
    exact ⟨kept, hmem, hplain (hall kept hgiven) (hall record hrecord) hkey⟩
  case pairs =>
    intro left right
    refine ⟨Flight.sameFlight_iff, fun hleft hright ↦ ⟨hplain hleft hright, ?_⟩⟩
    exact fun hsame ↦ hsame.dedupKey_eq

/-- The morning flight under an airline code and a flight number. -/
def numbered (code number : String) : Flight :=
  { morningFlight "Garuda" lowPrice with
    airline := ⟨"Garuda Indonesia", code⟩
    flightNumber := number }

/-- The morning flight with a departure in another offset. -/
def leavingIn (offset : ℤ) : Flight :=
  { morningFlight "Garuda" lowPrice with
    departure := ⟨"CGK", "Jakarta", some ⟨travelDay, ⟨28800, 0⟩, offset⟩⟩ }

/-- The numbered morning flight as a provider sends it. -/
def numberedSent (code number : String) : Json :=
  (numbered code number).toJsonWith fun _ ↦ .whole 0

theorem deduplicate_keeps_garuda :
    (∀ record ∈ [numbered "GA" "GA410", numbered "ga" "Ga410"], record.IsPlain) ∧
      numbered "ga" "Ga410" ∈ [numbered "GA" "GA410", numbered "ga" "Ga410"] ∧
      (∃ kept ∈ deduplicate [numbered "GA" "GA410", numbered "ga" "Ga410"],
        kept.SameFlight (numbered "ga" "Ga410")) ∧
      ∃ record, Flight.ofJson? (numberedSent "GA" "GA410") = some record ∧ record.IsPlain := by
  have hplain : ∀ record ∈ [numbered "GA" "GA410", numbered "ga" "Ga410"], record.IsPlain := by
    simp only [List.forall_mem_cons]
    exact ⟨by decide +kernel, by decide +kernel, List.forall_mem_nil _⟩
  have hmem : numbered "ga" "Ga410" ∈ [numbered "GA" "GA410", numbered "ga" "Ga410"] := by simp
  obtain ⟨-, hkeeps, -, hread⟩ :=
    deduplicate_keeps_flight [numbered "GA" "GA410", numbered "ga" "Ga410"]
  have htexts : (Flight.ofJson? (numberedSent "GA" "GA410")).map Flight.keyTexts =
      some (numbered "GA" "GA410").keyTexts := by decide +kernel
  obtain ⟨record, hrecord, hsame⟩ := Option.map_eq_some_iff.mp htexts
  refine ⟨hplain, hmem, hkeeps hplain _ hmem, record, hrecord, (hread _ record hrecord).mpr ?_⟩
  rw [hsame]
  decide +kernel

theorem deduplicate_pair {left right : Flight} (hkey : left.dedupKey = right.dedupKey)
    (hrank : right.isPreferredTo left = false) : deduplicate [left, right] = [left] := by
  simp only [deduplicate, List.foldl_cons, List.foldl_nil, placeRecord, if_pos hkey, hrank,
    Bool.false_eq_true, if_false]

/-- A flight is lost where a bar of the text can belong to the code or to the number, and where two
offsets differ by seconds. -/
theorem deduplicate_loses_flight :
    (∀ kept ∈ deduplicate [numbered "GA" "4|10", numbered "GA|4" "10"],
      ¬kept.SameFlight (numbered "GA|4" "10")) ∧
    ∀ kept ∈ deduplicate [leavingIn 25200, leavingIn 25210],
      ¬kept.SameFlight (leavingIn 25210) := by
  constructor
  · have hpair : deduplicate [numbered "GA" "4|10", numbered "GA|4" "10"] =
        [numbered "GA" "4|10"] :=
      deduplicate_pair (by decide +kernel) (by decide +kernel)
    rw [hpair, List.forall_mem_singleton]
    intro hsame
    have hcode := hsame.code
    revert hcode
    decide +kernel
  · have hpair : deduplicate [leavingIn 25200, leavingIn 25210] = [leavingIn 25200] :=
      deduplicate_pair (by decide +kernel) (by decide +kernel)
    rw [hpair, List.forall_mem_singleton]
    intro hsame
    have htime := hsame.departs
    revert htime
    decide +kernel

end FareSearch
