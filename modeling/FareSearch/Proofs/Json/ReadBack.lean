import FareSearch.Json.Reader
import FareSearch.Json.Record
import FareSearch.Json.Writer
import FareSearch.Proofs.Number.Digits

/-!
# JSON text that is read back

The compact text of a value is read as this value, as long as it has no double and nothing
unreadable, its whole numbers fit 64 bits, and it does not nest too deep. The proof goes along the
value: whatever follows its text, the reader takes just the text, with fuel for twice its length.
-/

namespace FareSearch.Json

open FareSearch.Number

section Strings

/-- A control is told by the two digits of its number. -/
theorem escapedPoint?_control {c : Char} (h : c.toNat < 0x20) (rest : List Char) :
    escapedPoint? ('0' :: '0' :: hexDigit (c.toNat / 16) :: hexDigit (c.toNat % 16) :: rest) =
      some (some c, rest) := by
  have hdigits : ∀ point : Fin 32, hexValue? (hexDigit (point / 16)) = some (point / 16 : ℕ) ∧
      hexValue? (hexDigit (point % 16)) = some (point % 16 : ℕ) := by decide
  obtain ⟨hhigh, hlow⟩ := hdigits ⟨c.toNat, h⟩
  have hzero : hexValue? '0' = some 0 := by decide
  have hunit : unit? ('0' :: '0' :: hexDigit (c.toNat / 16) :: hexDigit (c.toNat % 16) :: rest) =
      some (c.toNat, rest) := by
    have hnumber : ((0 * 16 + 0) * 16 + c.toNat / 16) * 16 + c.toNat % 16 = c.toNat := by omega
    simp only [unit?, hzero, hhigh, hlow, Option.bind_eq_bind, Option.bind_some, Option.pure_def,
      hnumber]
  have hlow' : ¬(0xDC00 ≤ c.toNat) := by omega
  have hhigh' : ¬(0xD800 ≤ c.toNat) := by omega
  simp [escapedPoint?, hunit, hlow', hhigh', Char.ofNat_toNat]

theorem readString_escapedChar (c : Char) (read : List Char) (fuel : ℕ) (rest : List Char) :
    readString (some read) (fuel + 1) (escapedChar c ++ rest) =
      readString (some (c :: read)) fuel rest := by
  unfold escapedChar
  split_ifs with hquote hslash hline hreturn htab hback hfeed hcontrol
  · rw [beq_iff_eq.mp hquote]; rfl
  · rw [beq_iff_eq.mp hslash]; rfl
  · rw [beq_iff_eq.mp hline]; rfl
  · rw [beq_iff_eq.mp hreturn]; rfl
  · rw [beq_iff_eq.mp htab]; rfl
  · rw [beq_iff_eq.mp hback]; rfl
  · rw [beq_iff_eq.mp hfeed]; rfl
  · simp [readString, escapedPoint?_control hcontrol]
  · simp [readString, hquote, hslash, hcontrol]

theorem readString_escaped (text rest read : List Char) {fuel : ℕ} (h : text.length < fuel) :
    readString (some read) fuel (text.flatMap escapedChar ++ '"' :: rest) =
      some (some (String.ofList (read.reverse ++ text)), rest) := by
  induction text generalizing read fuel with
  | nil =>
    obtain ⟨fuel, rfl⟩ := Nat.exists_eq_add_one_of_ne_zero (Nat.ne_zero_of_lt h)
    simp [readString]
  | cons c text ih =>
    obtain ⟨fuel, rfl⟩ := Nat.exists_eq_add_one_of_ne_zero (Nat.ne_zero_of_lt h)
    rw [List.flatMap_cons, List.append_assoc, readString_escapedChar,
      ih (c :: read) (by simpa using h), List.reverse_cons, List.append_assoc,
      List.singleton_append]

theorem length_le_escaped (text : List Char) :
    text.length ≤ (text.flatMap escapedChar).length := by
  have hchar (c : Char) : 1 ≤ (escapedChar c).length := by
    unfold escapedChar
    split_ifs <;> simp
  induction text with
  | nil => exact le_refl 0
  | cons c text ih =>
    rw [List.flatMap_cons, List.length_append, List.length_cons]
    have := hchar c
    omega

theorem toList_stringText (text : String) (rest : List Char) :
    (stringText text).toList ++ rest =
      '"' :: (text.toList.flatMap escapedChar ++ '"' :: rest) := by
  simp [stringText]

theorem readQuoted_escaped (text : String) (rest : List Char) :
    readQuoted (text.toList.flatMap escapedChar ++ '"' :: rest) = some (some text, rest) := by
  have hlength := length_le_escaped text.toList
  rw [readQuoted, readString_escaped _ _ _ (by rw [List.length_append]; omega)]
  simp

end Strings

section Numbers

/-- A text with which no number goes on. -/
def EndsNumber (rest : List Char) : Prop :=
  ∀ c ∈ rest.head?, isDigit c = false ∧ c ≠ '.' ∧ c ≠ 'e' ∧ c ≠ 'E'

theorem EndsNumber.endsDigits {rest : List Char} (h : EndsNumber rest) : EndsDigits rest :=
  fun c hc ↦ (h c hc).1

theorem endsNumber_nil : EndsNumber [] := by
  rintro c ⟨⟩

theorem endsNumber_cons {c : Char} (h : isDigit c = false ∧ c ≠ '.' ∧ c ≠ 'e' ∧ c ≠ 'E')
    (rest : List Char) : EndsNumber (c :: rest) := by
  rintro d ⟨⟩
  exact h

theorem leadingDigits_eq {start : ℕ} {digits : List Char} (h : continued start digits ≤ limit64) :
    leadingDigits start digits = (continued start digits, 0) := by
  induction digits generalizing start with
  | nil => rfl
  | cons c digits ih =>
    rw [continued_cons] at h ⊢
    have hnext := le_trans (le_continued _ digits) h
    rw [leadingDigits, if_neg (not_lt.mpr hnext), ih h]

/-- A whole number ends where its digits end. -/
theorem readNumber_digits (negative : Bool) {n : ℕ} {rest : List Char} (hn : n ≤ limit64)
    (hrest : EndsNumber rest) :
    readNumber negative (Nat.toDigits 10 n ++ rest) =
      if !negative then some (.whole n, rest)
      else if n = 0 || n > twoPow 63 then some (signedDouble true (ofNat n), rest)
      else some (.whole (-(Int.ofNat n)), rest) := by
  have hdigits : ∀ c ∈ Nat.toDigits 10 n, isDigit c = true := fun c hc ↦ isDigit_of_mem_toDigits hc
  have hleading : leadingDigits 0 (Nat.toDigits 10 n) = (n, 0) := by
    rw [leadingDigits_eq (by rwa [continued_zero, ofDigits_toDigits]), continued_zero,
      ofDigits_toDigits]
  have hfollowing {c : Char} {more : List Char} (h : rest = c :: more) :=
    hrest c (by rw [h]; rfl)
  unfold readNumber
  simp only [takeWhile_isDigit_append hdigits hrest.endsDigits,
    dropWhile_isDigit_append hdigits hrest.endsDigits, hleading]
  split
  case h_1 hnil => exact absurd hnil Nat.toDigits_ne_nil
  case h_3 hlonger hzero =>
    by_cases hn0 : n = 0
    · rw [hn0, Nat.toDigits_zero] at hzero
      exact absurd (List.cons.inj hzero).2.symm hlonger
    · exact absurd (congrArg List.head? hzero) (head?_toDigits_ne_zero (Nat.pos_of_ne_zero hn0))
  all_goals
    rw [if_neg (by decide)]
    split
    next => exact absurd rfl (hfollowing rfl).2.1
    next => exact absurd rfl (hfollowing rfl).2.2.1
    next => exact absurd rfl (hfollowing rfl).2.2.2
    next => simp

end Numbers

section Values

/-- Values whose compact text is read as themselves: without doubles and unreadable parts, with
whole numbers of 64 bits, and nested at most so deep. -/
inductive ReadsBack : ℕ → Json → Prop where
  | null (depth : ℕ) : ReadsBack depth .null
  | bool (depth : ℕ) (value : Bool) : ReadsBack depth (.bool value)
  | string (depth : ℕ) (text : String) : ReadsBack depth (.string text)
  | whole (depth : ℕ) {value : ℤ} (hleast : -(twoPow 63 : ℤ) ≤ value) (hmost : value ≤ limit64) :
    ReadsBack depth (.whole value)
  | array {depth : ℕ} {items : List Json} (h : ∀ item ∈ items, ReadsBack depth item) :
    ReadsBack (depth + 1) (.array items)
  | object {depth : ℕ} {members : List (String × Json)}
    (h : ∀ member ∈ members, ReadsBack depth member.2) : ReadsBack (depth + 1) (.object members)

/-- The characters of the compact text of a value. -/
def textOf (json : Json) : List Char :=
  (compact json).toList

/-- The reader takes the text of a value off whatever text it stands before, and there is such a
text: it begins with a mark that neither is passed over nor closes anything. -/
structure Reads (depth : ℕ) (json : Json) : Prop where
  first : ∃ c more, textOf json = c :: more ∧ isSpace c = false ∧ c ≠ ']' ∧ c ≠ '\x7d'
  back : ∀ fuel rest, 2 * (textOf json).length ≤ fuel → EndsNumber rest →
    readValue fuel depth (textOf json ++ rest) = some (json, rest)

theorem skipSpace_cons {c : Char} (h : isSpace c = false) (rest : List Char) :
    skipSpace (c :: rest) = c :: rest := by
  rw [skipSpace, List.dropWhile_cons_of_neg (by simp [h])]

variable {depth : ℕ}

/-- A word or a string needs no more fuel than its first step. -/
theorem reads_of_step {json : Json} {c : Char} {more : List Char} (htext : textOf json = c :: more)
    (hc : isSpace c = false ∧ c ≠ ']' ∧ c ≠ '\x7d')
    (hstep : ∀ fuel rest, readValue (fuel + 1) depth (textOf json ++ rest) = some (json, rest)) :
    Reads depth json where
  first := ⟨c, more, htext, hc⟩
  back fuel rest hfuel _ := by
    rw [htext, List.length_cons] at hfuel
    obtain ⟨fuel, rfl⟩ := Nat.exists_eq_add_one_of_ne_zero (show fuel ≠ 0 by omega)
    exact hstep fuel rest

theorem reads_null : Reads depth .null :=
  reads_of_step (c := 'n') rfl (by decide) fun _ _ ↦ rfl

theorem reads_bool (value : Bool) : Reads depth (.bool value) := by
  cases value with
  | false => exact reads_of_step (c := 'f') rfl (by decide) fun _ _ ↦ rfl
  | true => exact reads_of_step (c := 't') rfl (by decide) fun _ _ ↦ rfl

theorem textOf_string (text : String) :
    textOf (.string text) = '"' :: (text.toList.flatMap escapedChar ++ ['"']) := by
  simp [textOf, compact, stringText]

theorem reads_string (text : String) : Reads depth (.string text) := by
  refine reads_of_step (textOf_string text) (by decide) fun fuel rest ↦ ?_
  have hspace := skipSpace_cons (c := '"') (by decide)
    (text.toList.flatMap escapedChar ++ '"' :: rest)
  rw [textOf_string, List.cons_append, List.append_assoc, List.singleton_append]
  simp only [readValue, hspace, readQuoted_escaped]
  rfl

theorem ne_of_isDigit {c d : Char} (hc : isDigit c = true) (hd : isDigit d = false) : c ≠ d := by
  rintro rfl
  rw [hc] at hd
  exact Bool.noConfusion hd

theorem isSpace_of_isDigit {c : Char} (h : isDigit c = true) :
    isSpace c = false ∧ c ≠ ']' ∧ c ≠ '\x7d' := by
  refine ⟨?_, ne_of_isDigit h (by decide), ne_of_isDigit h (by decide)⟩
  have hne := fun d ↦ ne_of_isDigit (d := d) h
  simp [isSpace, hne ' ' (by decide), hne '\n' (by decide), hne '\t' (by decide),
    hne '\r' (by decide)]

theorem readValue_of_isDigit {c : Char} (h : isDigit c = true) (fuel : ℕ) (rest : List Char) :
    readValue (fuel + 1) depth (c :: rest) = readNumber false (c :: rest) := by
  unfold readValue
  rw [skipSpace_cons (isSpace_of_isDigit h).1]
  split
  all_goals first
    | rfl
    | next heq => exact absurd (List.cons.inj heq).1 (ne_of_isDigit h (by decide))

theorem textOf_ofNat (n : ℕ) : textOf (.whole (Int.ofNat n)) = Nat.toDigits 10 n :=
  Nat.toList_repr

theorem textOf_negSucc (n : ℕ) :
    textOf (.whole (Int.negSucc n)) = '-' :: Nat.toDigits 10 (n + 1) := by
  have htext : compact (.whole (Int.negSucc n)) = "-" ++ toString (n + 1) := rfl
  rw [textOf, htext, String.toList_append, Nat.toString_eq_repr, Nat.toList_repr]
  rfl

theorem reads_whole {value : ℤ} (hleast : -(twoPow 63 : ℤ) ≤ value) (hmost : value ≤ limit64) :
    Reads depth (.whole value) := by
  cases value with
  | ofNat n =>
    obtain ⟨c, more, hdigits⟩ := List.exists_cons_of_ne_nil (Nat.toDigits_ne_nil (n := n) (b := 10))
    have hc : isDigit c = true := isDigit_of_mem_toDigits (hdigits ▸ List.mem_cons_self)
    have htext : textOf (.whole (Int.ofNat n)) = c :: more := (textOf_ofNat n).trans hdigits
    refine ⟨⟨c, more, htext, isSpace_of_isDigit hc⟩, fun fuel rest hfuel hrest ↦ ?_⟩
    rw [htext, List.length_cons] at hfuel
    obtain ⟨fuel, rfl⟩ := Nat.exists_eq_add_one_of_ne_zero (show fuel ≠ 0 by omega)
    rw [htext, List.cons_append, readValue_of_isDigit hc, ← List.cons_append, ← hdigits,
      readNumber_digits false (Int.ofNat_le.mp hmost) hrest]
    rfl
  | negSucc n =>
    refine ⟨⟨'-', _, textOf_negSucc n, by decide⟩, fun fuel rest hfuel hrest ↦ ?_⟩
    rw [textOf_negSucc, List.length_cons] at hfuel
    obtain ⟨fuel, rfl⟩ := Nat.exists_eq_add_one_of_ne_zero (show fuel ≠ 0 by omega)
    have hmagnitude : n + 1 ≤ twoPow 63 := by omega
    have hlimit : n + 1 ≤ limit64 := le_trans hmagnitude (by decide)
    have hinside : ¬(n + 1 = 0 ∨ n + 1 > twoPow 63) := by omega
    calc
      readValue (fuel + 1) depth (textOf (.whole (Int.negSucc n)) ++ rest) =
          readNumber true (Nat.toDigits 10 (n + 1) ++ rest) := by
        rw [textOf_negSucc]
        rfl
      _ = some (.whole (Int.negSucc n), rest) := by
        rw [readNumber_digits true hlimit hrest]
        simp only [Bool.not_true, Bool.or_eq_true, decide_eq_true_eq, if_neg hinside]
        rfl

end Values

section Compounds

variable {depth : ℕ}

/-- Parts between commas, as characters. -/
def joined (parts : List String) : List Char :=
  (",".intercalate parts).toList

theorem joined_singleton (part : String) : joined [part] = part.toList := by
  rw [joined, String.intercalate_singleton]

theorem joined_cons_cons (part next : String) (parts : List String) :
    joined (part :: next :: parts) = part.toList ++ ',' :: joined (next :: parts) := by
  rw [joined, String.intercalate_cons_cons, String.toList_append, String.toList_append]
  simp [joined]

theorem textOf_array (items : List Json) :
    textOf (.array items) = '[' :: (joined (compactItems items) ++ [']']) := by
  simp [textOf, compact, joined]

theorem textOf_object (members : List (String × Json)) :
    textOf (.object members) = '\x7b' :: (joined (compactMembers members) ++ ['\x7d']) := by
  simp [textOf, compact, joined]

theorem endsNumber_comma (rest : List Char) : EndsNumber (',' :: rest) :=
  endsNumber_cons (by decide) rest

/-- Items are taken one by one up to the bracket after the last. -/
theorem readItems_joined {items : List Json} (hsome : items ≠ [])
    (h : ∀ item ∈ items, Reads depth item) (rest : List Char) (fuel : ℕ)
    (hfuel : 2 * (joined (compactItems items)).length + 1 ≤ fuel) :
    readItems fuel depth (joined (compactItems items) ++ ']' :: rest) = some (items, rest) := by
  induction items generalizing fuel with
  | nil => exact absurd rfl hsome
  | cons item items ih =>
    obtain ⟨fuel, rfl⟩ := Nat.exists_eq_add_one_of_ne_zero (show fuel ≠ 0 by omega)
    have hitem := h item List.mem_cons_self
    cases items with
    | nil =>
      rw [compactItems, compactItems, joined_singleton] at hfuel ⊢
      have hread := hitem.back fuel (']' :: rest) (by rw [textOf]; omega)
        (endsNumber_cons (by decide) rest)
      rw [readItems, ← textOf, hread]
      rfl
    | cons next items =>
      have htext : joined (compactItems (item :: next :: items)) =
          textOf item ++ ',' :: joined (compactItems (next :: items)) :=
        joined_cons_cons _ _ _
      rw [htext] at hfuel ⊢
      rw [List.length_append, List.length_cons] at hfuel
      have hread := hitem.back fuel (',' :: (joined (compactItems (next :: items)) ++ ']' :: rest))
        (by omega) (endsNumber_comma _)
      have hmore := ih (List.cons_ne_nil _ _) (fun other hother ↦ h other (.tail _ hother)) fuel
        (by omega)
      rw [List.append_assoc, List.cons_append, readItems, hread]
      simp only [skipSpace_cons (c := ',') (by decide), hmore, Option.map_some]

theorem exists_joined_cons (part : String) (parts : List String) :
    ∃ more, joined (part :: parts) = part.toList ++ more := by
  cases parts with
  | nil => exact ⟨[], by rw [joined_singleton, List.append_nil]⟩
  | cons next parts => exact ⟨_, joined_cons_cons part next parts⟩

theorem readValue_bracket {c : Char} (hspace : isSpace c = false) (hc : c ≠ ']') (fuel : ℕ)
    (rest : List Char) :
    readValue (fuel + 1) (depth + 1) ('[' :: c :: rest) =
      (readItems fuel depth (c :: rest)).map fun (items, rest) ↦ (.array items, rest) := by
  rw [readValue, skipSpace_cons (by decide)]
  simp only [skipSpace_cons hspace]
  split
  next heq => exact absurd (List.cons.inj heq).1 hc
  next => rfl

theorem reads_array {items : List Json} (h : ∀ item ∈ items, Reads depth item) :
    Reads (depth + 1) (.array items) where
  first := ⟨'[', _, textOf_array items, by decide⟩
  back fuel rest hfuel _ := by
    rw [textOf_array, List.length_cons, List.length_append, List.length_singleton] at hfuel
    obtain ⟨fuel, rfl⟩ := Nat.exists_eq_add_one_of_ne_zero (show fuel ≠ 0 by omega)
    rw [textOf_array, List.cons_append, List.append_assoc, List.singleton_append]
    cases items with
    | nil => rfl
    | cons item items =>
      have hitems := readItems_joined (List.cons_ne_nil item items) h rest fuel (by omega)
      obtain ⟨c, more, htext, hspace, hc, -⟩ := (h item List.mem_cons_self).first
      obtain ⟨others, hjoined⟩ := exists_joined_cons (compact item) (compactItems items)
      have hbegins : joined (compactItems (item :: items)) = c :: (more ++ others) := by
        rw [compactItems, hjoined, ← textOf, htext, List.cons_append]
      rw [hbegins, List.cons_append] at hitems ⊢
      rw [readValue_bracket hspace hc, hitems]
      rfl

/-- Members are taken one by one up to the brace after the last. -/
theorem readMembers_joined {members : List (String × Json)} (hsome : members ≠ [])
    (h : ∀ member ∈ members, Reads depth member.2) (rest : List Char) (fuel : ℕ)
    (hfuel : 2 * (joined (compactMembers members)).length + 1 ≤ fuel) :
    readMembers fuel depth (joined (compactMembers members) ++ '\x7d' :: rest) =
      some (some members, rest) := by
  induction members generalizing fuel with
  | nil => exact absurd rfl hsome
  | cons member members ih =>
    obtain ⟨fuel, rfl⟩ := Nat.exists_eq_add_one_of_ne_zero (show fuel ≠ 0 by omega)
    obtain ⟨name, value⟩ := member
    have hvalue : Reads depth value := h (name, value) List.mem_cons_self
    have hlength : (textOf value).length ≤
        (stringText name ++ ":" ++ compact value).toList.length := by
      simp only [textOf, String.toList_append, List.length_append]
      omega
    have hmember (following : List Char) :
        (stringText name ++ ":" ++ compact value).toList ++ following =
          '"' :: (name.toList.flatMap escapedChar ++
            '"' :: ':' :: (textOf value ++ following)) := by
      rw [String.toList_append, String.toList_append, List.append_assoc, List.append_assoc,
        toList_stringText]
      rfl
    cases members with
    | nil =>
      rw [compactMembers, compactMembers, joined_singleton] at hfuel ⊢
      have hread := hvalue.back fuel ('\x7d' :: rest) (by omega) (endsNumber_cons (by decide) rest)
      rw [hmember, readMembers, skipSpace_cons (by decide)]
      simp only [readQuoted_escaped, skipSpace_cons (c := ':') (by decide), hread]
      rfl
    | cons next members =>
      have htext : joined (compactMembers ((name, value) :: next :: members)) =
          (stringText name ++ ":" ++ compact value).toList ++
            ',' :: joined (compactMembers (next :: members)) :=
        joined_cons_cons _ _ _
      rw [htext] at hfuel ⊢
      rw [List.length_append, List.length_cons] at hfuel
      have hread := hvalue.back fuel
        (',' :: (joined (compactMembers (next :: members)) ++ '\x7d' :: rest)) (by omega)
        (endsNumber_comma _)
      have hmore := ih (List.cons_ne_nil _ _) (fun other hother ↦ h other (.tail _ hother)) fuel
        (by omega)
      rw [List.append_assoc, List.cons_append, hmember, readMembers, skipSpace_cons (by decide)]
      simp only [readQuoted_escaped, skipSpace_cons (c := ':') (by decide), hread,
        skipSpace_cons (c := ',') (by decide), hmore]
      rfl

theorem readValue_brace {c : Char} (hspace : isSpace c = false) (hc : c ≠ '\x7d') (fuel : ℕ)
    (rest : List Char) :
    readValue (fuel + 1) (depth + 1) ('\x7b' :: c :: rest) =
      (readMembers fuel depth (c :: rest)).map fun (members, rest) ↦
        ((members.map .object).getD .unreadable, rest) := by
  rw [readValue, skipSpace_cons (by decide)]
  simp only [skipSpace_cons hspace]
  split
  next heq => exact absurd (List.cons.inj heq).1 hc
  next => rfl

theorem reads_object {members : List (String × Json)}
    (h : ∀ member ∈ members, Reads depth member.2) : Reads (depth + 1) (.object members) where
  first := ⟨'\x7b', _, textOf_object members, by decide⟩
  back fuel rest hfuel _ := by
    rw [textOf_object, List.length_cons, List.length_append, List.length_singleton] at hfuel
    obtain ⟨fuel, rfl⟩ := Nat.exists_eq_add_one_of_ne_zero (show fuel ≠ 0 by omega)
    rw [textOf_object, List.cons_append, List.append_assoc, List.singleton_append]
    cases members with
    | nil => rfl
    | cons member members =>
      have hmembers := readMembers_joined (List.cons_ne_nil member members) h rest fuel (by omega)
      obtain ⟨others, hjoined⟩ := exists_joined_cons
        (stringText member.1 ++ ":" ++ compact member.2) (compactMembers members)
      have hbegins : ∃ more, joined (compactMembers (member :: members)) = '"' :: more := by
        rw [compactMembers, hjoined, String.toList_append, String.toList_append]
        simp [stringText]
      obtain ⟨more, hmore⟩ := hbegins
      rw [hmore, List.cons_append] at hmembers ⊢
      rw [readValue_brace (by decide) (by decide), hmembers]
      rfl

end Compounds

theorem ReadsBack.reads {depth : ℕ} {json : Json} (h : ReadsBack depth json) :
    Reads depth json := by
  induction h with
  | null depth => exact reads_null
  | bool depth value => exact reads_bool value
  | string depth text => exact reads_string text
  | whole depth hleast hmost => exact reads_whole hleast hmost
  | array h ih => exact reads_array ih
  | object h ih => exact reads_object ih

theorem allReadable_of_forall {items : List Json} (h : ∀ item ∈ items, isReadable item = true) :
    allReadable items = true := by
  induction items with
  | nil => rfl
  | cons item items ih =>
    rw [allReadable, h item List.mem_cons_self, ih fun other hother ↦ h other (.tail _ hother)]
    rfl

theorem allMembersReadable_of_forall {members : List (String × Json)}
    (h : ∀ member ∈ members, isReadable member.2 = true) : allMembersReadable members = true := by
  induction members with
  | nil => rfl
  | cons member members ih =>
    rw [allMembersReadable, h member List.mem_cons_self,
      ih fun other hother ↦ h other (.tail _ hother)]
    rfl

theorem ReadsBack.isReadable {depth : ℕ} {json : Json} (h : ReadsBack depth json) :
    isReadable json = true := by
  induction h with
  | null depth => rfl
  | bool depth value => rfl
  | string depth text => rfl
  | whole depth hleast hmost => rfl
  | array h ih => exact allReadable_of_forall ih
  | object h ih => exact allMembersReadable_of_forall ih

/-- The compact text of a value is read as the value. -/
theorem read?_compact {json : Json} (h : ReadsBack 127 json) :
    read? (compact json) = some json := by
  have hread : readValue (2 * (compact json).toList.length + 2) 127 (compact json).toList =
      some (json, []) := by
    have hback := h.reads.back (2 * (textOf json).length + 2) [] (by omega) endsNumber_nil
    rwa [List.append_nil] at hback
  have hnested : readNested? 127 (compact json) = some json := by
    simp only [readNested?, hread]
    rfl
  rw [read?, hnested, Option.filter_some, h.isReadable]
  rfl

section Records

theorem filter_name_eq {members : List (String × Json)} (hnodup : (members.map Prod.fst).Nodup)
    {member : String × Json} (hmember : member ∈ members) :
    members.filter (·.1 == member.1) = [member] := by
  induction members with
  | nil => exact absurd hmember List.not_mem_nil
  | cons first members ih =>
    obtain ⟨hfirst, hnodup⟩ := List.nodup_cons.mp hnodup
    rcases List.mem_cons.mp hmember with rfl | hmember
    · have hothers : members.filter (·.1 == member.1) = [] := by
        rw [List.filter_eq_nil_iff]
        intro other hother hname
        exact hfirst (beq_iff_eq.mp hname ▸ List.mem_map_of_mem hother)
      rw [List.filter_cons, if_pos (beq_self_eq_true member.1), hothers]
    · have hname : first.1 ≠ member.1 := fun hsame ↦ hfirst (hsame ▸ List.mem_map_of_mem hmember)
      rw [List.filter_cons_of_neg (by simpa using hname), ih hnodup hmember]

/-- An object with just the declared names, in their order, gives each field its value. -/
theorem entries?_object {members : List (String × Json)}
    (hnodup : (members.map Prod.fst).Nodup) :
    entries? (members.map Prod.fst) (.object members) =
      some (members.map fun member ↦ .given member.2) := by
  have hpart (part : List (String × Json)) (hpart : ∀ member ∈ part, member ∈ members) :
      entries? (part.map Prod.fst) (.object members) =
        some (part.map fun member ↦ .given member.2) := by
    induction part with
    | nil => rfl
    | cons member part ih =>
      have hrest := ih fun other hother ↦ hpart other (.tail _ hother)
      rw [entries?] at hrest ⊢
      rw [List.map_cons, List.mapM_cons, filter_name_eq hnodup (hpart member List.mem_cons_self),
        hrest]
      rfl
  exact hpart members fun _ hmember ↦ hmember

/-- An optional value that is written or null is read as the optional value. -/
theorem optionalAnywhere_ofOption {α : Type} {toJson : α → Json} {reader : Reader α}
    (back : α → α) {value : Option α}
    (h : ∀ present ∈ value, toJson present ≠ .null ∧
      reader (toJson present) = some (back present)) :
    (Entry.given (ofOption toJson value)).optionalAnywhere reader = some (value.map back) := by
  cases value with
  | none => rfl
  | some present =>
    obtain ⟨hnull, hread⟩ := h present rfl
    rw [ofOption, Entry.optionalAnywhere]
    · rw [Entry.optional]
      · rw [hread]
        rfl
      · exact fun hsame ↦ hnull hsame
    · simp

theorem optionalAnywhere_unchanged {α : Type} {toJson : α → Json} {reader : Reader α}
    {value : Option α}
    (h : ∀ present ∈ value, toJson present ≠ .null ∧ reader (toJson present) = some present) :
    (Entry.given (ofOption toJson value)).optionalAnywhere reader = some value := by
  rw [optionalAnywhere_ofOption (fun present ↦ present) h, Option.map_id']

/-- What holds of all that a reader gives holds of an optional value that was read with it. -/
theorem forall_of_optionalAnywhere {α : Type} {motive : α → Prop} {reader : Reader α}
    (hreader : ∀ json value, reader json = some value → motive value) {entry : Entry}
    {value : Option α} (h : entry.optionalAnywhere reader = some value) :
    ∀ present ∈ value, motive present := by
  unfold Entry.optionalAnywhere at h
  split at h
  next =>
    cases h
    exact fun _ hpresent ↦ nomatch hpresent
  next =>
    unfold Entry.optional at h
    split at h
    next =>
      cases h
      exact fun _ hpresent ↦ nomatch hpresent
    next json _ _ =>
      obtain ⟨read, hread, rfl⟩ := Option.map_eq_some_iff.mp h
      intro present hpresent
      exact Option.some.inj hpresent ▸ hreader json read hread
    next =>
      cases h
      exact fun _ hpresent ↦ nomatch hpresent
    next => cases h

theorem of_withDefault {α : Type} {motive : α → Prop} {reader : Reader α}
    (hreader : ∀ json value, reader json = some value → motive value) {default : α}
    (hdefault : motive default) {entry : Entry} {value : α}
    (h : entry.withDefault reader default = some value) : motive value := by
  unfold Entry.withDefault at h
  split at h
  next json => exact hreader json value h
  next => exact Option.some.inj h ▸ hdefault

theorem readsBack_ofOption {α : Type} {depth : ℕ} {toJson : α → Json} {value : Option α}
    (h : ∀ present ∈ value, ReadsBack depth (toJson present)) :
    ReadsBack depth (ofOption toJson value) := by
  cases value with
  | none => exact .null depth
  | some present => exact h present rfl

theorem list?_strings (values : List String) : list? text? (strings values) = some values := by
  rw [strings, list?]
  induction values with
  | nil => rfl
  | cons value values ih =>
    rw [List.map_cons, List.mapM_cons, ih]
    rfl

theorem nat32?_nat {n : ℕ} (h : n ≤ limit32) : nat32? (.nat n) = some n := by
  simp [nat32?, natUpTo?, whole?, Json.nat, Json.whole, natWithin, h]

theorem int64?_whole {value : ℤ} (hleast : -(twoPow 63 : ℤ) ≤ value)
    (hmost : value < (twoPow 63 : ℤ)) : int64? (.whole value) = some value := by
  simp [int64?, whole?, Json.whole, intWithin64, hleast, hmost]

theorem le_of_nat32? (json : Json) (n : ℕ) (h : nat32? json = some n) : n ≤ limit32 := by
  obtain ⟨value, -, hvalue⟩ := Option.bind_eq_some_iff.mp h
  simp only [natWithin, Option.ite_none_right_eq_some, Bool.and_eq_true, decide_eq_true_eq,
    Option.some.injEq] at hvalue
  omega

theorem bounds_of_int64? (json : Json) (value : ℤ) (h : int64? json = some value) :
    -(twoPow 63 : ℤ) ≤ value ∧ value < (twoPow 63 : ℤ) := by
  obtain ⟨read, -, hread⟩ := Option.bind_eq_some_iff.mp h
  simp only [intWithin64, Option.ite_none_right_eq_some, Bool.and_eq_true, decide_eq_true_eq,
    Option.some.injEq] at hread
  exact hread.2 ▸ hread.1

end Records

end FareSearch.Json
