import FareSearch.Text.Blank
import FareSearch.Text.Lowercase
import Mathlib.Data.List.DropRight

/-!
# Trimmed small letters stay as they are

No letter of the table has an image that the table changes again, and the images of letters are not
blank. So a text that was trimmed and brought to small letters is not changed if this is done once
more. Two runs of the table are compared by their bounds, not letter by letter.
-/

namespace FareSearch.Text

section Table

/-- Whether a code point belongs to a run of capitals. -/
def inRun (run : ℕ × ℕ × ℕ × ℤ) (point : ℕ) : Bool :=
  run.1 ≤ point && point ≤ run.2.1 && (point - run.1) % run.2.2.1 == 0

/-- The small letter that a run gives for a code point. -/
def image (run : ℕ × ℕ × ℕ × ℤ) (point : ℕ) : ℕ :=
  Int.toNat (point + run.2.2.2)

/-- Open intervals without blanks, without capitals of ASCII, without the two letters that have a
rule of their own and without surrogates. -/
def plainIntervals : List (ℕ × ℕ) :=
  [(90, 133), (160, 304), (304, 931), (931, 5760), (5760, 8192), (8287, 12288), (12288, 55296),
   (57343, 1114112)]

def isPlain (point : ℕ) : Bool :=
  plainIntervals.any fun interval ↦ interval.1 < point && point < interval.2

/-- Whether the images of a run lie in one of the intervals. -/
def imagesPlain (run : ℕ × ℕ × ℕ × ℤ) : Bool :=
  plainIntervals.any fun interval ↦
    interval.1 < image run run.1 && image run run.2.1 < interval.2

/-- Whether no image of a run belongs to another run: they lie apart, or they alternate. -/
def imagesClear (run other : ℕ × ℕ × ℕ × ℤ) : Bool :=
  image run run.2.1 < other.1 || other.2.1 < image run run.1 ||
    ((run.2.2.1 == 2 || run.1 == run.2.1) && other.2.2.1 == 2 &&
      (image run run.1 + other.1) % 2 == 1)

theorem lowercaseRuns_settled : lowercaseRuns.all (fun run ↦
    imagesPlain run && lowercaseRuns.all (imagesClear run)) = true := by
  decide +kernel

variable {run other : ℕ × ℕ × ℕ × ℤ} {point : ℕ}

theorem isPlain_image (hplain : imagesPlain run = true) (hin : inRun run point = true) :
    isPlain (image run point) = true := by
  simp only [inRun, Bool.and_eq_true, decide_eq_true_eq, beq_iff_eq] at hin
  simp only [imagesPlain, List.any_eq_true, Bool.and_eq_true, decide_eq_true_eq] at hplain
  obtain ⟨interval, hmem, hbelow, habove⟩ := hplain
  simp only [isPlain, List.any_eq_true, Bool.and_eq_true, decide_eq_true_eq]
  unfold image at *
  exact ⟨interval, hmem, by omega, by omega⟩

theorem not_inRun_image (hplain : imagesPlain run = true) (hclear : imagesClear run other = true)
    (hin : inRun run point = true) : inRun other (image run point) = false := by
  simp only [inRun, Bool.and_eq_true, decide_eq_true_eq, beq_iff_eq] at hin
  simp only [imagesPlain, List.any_eq_true, Bool.and_eq_true, decide_eq_true_eq] at hplain
  simp only [imagesClear, Bool.or_eq_true, Bool.and_eq_true, decide_eq_true_eq,
    beq_iff_eq] at hclear
  rw [Bool.eq_false_iff]
  intro hother
  simp only [inRun, Bool.and_eq_true, decide_eq_true_eq, beq_iff_eq] at hother
  obtain ⟨interval, -, hpositive, -⟩ := hplain
  obtain ⟨⟨hfirst, hlast⟩, hstep⟩ := hin
  obtain ⟨⟨hotherFirst, hotherLast⟩, hotherStep⟩ := hother
  unfold image at *
  rcases hclear with (hbefore | hafter) | ⟨⟨hevery | hsingle, hother⟩, hodd⟩
  · omega
  · omega
  · rw [hevery] at hstep
    rw [hother] at hotherStep
    omega
  · rw [hother] at hotherStep
    omega

/-- The table keeps a character, or its image is plain and in no run. -/
theorem lowerByTable_elim {motive : Char → Prop} (c : Char)
    (hkept : (∀ run ∈ lowercaseRuns, inRun run c.toNat = false) → motive c)
    (himage : ∀ point, isPlain point = true →
      (∀ run ∈ lowercaseRuns, inRun run point = false) → motive (Char.ofNat point)) :
    motive (lowerByTable c) := by
  have hsettled := List.all_eq_true.mp lowercaseRuns_settled
  unfold lowerByTable
  dsimp only
  split
  next first last step shift hfound =>
    have hin : inRun (first, last, step, shift) c.toNat = true := by
      have hsome := List.find?_some hfound
      exact hsome
    have hrun := Bool.and_eq_true_iff.mp (hsettled _ (List.mem_of_find?_eq_some hfound))
    apply himage
    · exact isPlain_image hrun.1 hin
    · intro other hother
      exact not_inRun_image hrun.1 (List.all_eq_true.mp hrun.2 other hother) hin
  next hnone =>
    apply hkept
    intro run hrun
    exact Bool.eq_false_iff.mpr (List.find?_eq_none.mp hnone run hrun)

end Table

section Characters

/-- A character that is its own small form. -/
def IsSmall (c : Char) : Prop :=
  ∀ before after, lowerInContext before c after = [c]

theorem lowerByTable_of_not_inRun {c : Char}
    (h : ∀ run ∈ lowercaseRuns, inRun run c.toNat = false) : lowerByTable c = c := by
  unfold lowerByTable
  dsimp only
  split
  next first last step shift hfound =>
    have hin : inRun (first, last, step, shift) c.toNat = true := by
      have hsome := List.find?_some hfound
      exact hsome
    rw [h _ (List.mem_of_find?_eq_some hfound)] at hin
    cases hin
  next => rfl

/-- A plain code point is that of its character, and neither blank nor with a rule of its own. -/
theorem of_isPlain {point : ℕ} (h : isPlain point = true) :
    (Char.ofNat point).toNat = point ∧ isBlank (Char.ofNat point) = false ∧
      isAsciiUpper (Char.ofNat point) = false ∧ point ≠ 0x130 ∧ point ≠ 0x3A3 := by
  simp only [isPlain, plainIntervals, List.any_cons, List.any_nil, Bool.or_false, Bool.or_eq_true,
    Bool.and_eq_true, decide_eq_true_eq] at h
  have hvalid : point.isValidChar := by
    unfold Nat.isValidChar
    omega
  have hpoint : (Char.ofNat point).toNat = point := by
    rw [Char.ofNat, dif_pos hvalid]
    rfl
  refine ⟨hpoint, ?_, ?_, by omega, by omega⟩
  · simp only [isBlank, hpoint, Bool.or_eq_false_iff, Bool.and_eq_false_iff,
      decide_eq_false_iff_not, beq_eq_false_iff_ne]
    omega
  · rw [Bool.eq_false_iff]
    intro hupper
    simp only [isAsciiUpper, Bool.and_eq_true, decide_eq_true_eq] at hupper
    have hlast : (Char.ofNat point).toNat ≤ 'Z'.toNat :=
      UInt32.le_iff_toNat_le.mp (Char.le_def.mp hupper.2)
    rw [hpoint] at hlast
    have : 'Z'.toNat = 90 := rfl
    omega

theorem isSmall_of_isPlain {point : ℕ} (hplain : isPlain point = true)
    (hnone : ∀ run ∈ lowercaseRuns, inRun run point = false) : IsSmall (Char.ofNat point) := by
  obtain ⟨hpoint, -, hupper, hdotted, hsigma⟩ := of_isPlain hplain
  have htable : lowerByTable (Char.ofNat point) = Char.ofNat point := by
    apply lowerByTable_of_not_inRun
    rw [hpoint]
    exact hnone
  have hascii : asciiLowerChar (Char.ofNat point) = Char.ofNat point := by
    rw [asciiLowerChar, hupper]
    rfl
  intro before after
  rw [lowerInContext, htable, hascii, beq_eq_false_iff_ne.mpr, beq_eq_false_iff_ne.mpr]
  · simp only [Bool.false_eq_true, if_false, ite_self]
  · intro h
    exact hsigma (hpoint.symm.trans (congrArg Char.toNat h))
  · intro h
    exact hdotted (hpoint.symm.trans (congrArg Char.toNat h))

theorem ascii_forall {motive : Char → Prop} (h : ∀ point : Fin 128, motive (Char.ofNat point))
    {c : Char} (hc : c.toNat < 128) : motive c := by
  have hpoint := h ⟨c.toNat, hc⟩
  rwa [Char.ofNat_toNat] at hpoint

/-- What the small forms of a character are like. -/
structure SmallForms (c : Char) (forms : List Char) : Prop where
  ne_nil : forms ≠ []
  small : ∀ form ∈ forms, IsSmall form
  not_blank : isBlank c = false → ∀ form ∈ forms, isBlank form = false

theorem isSmall_of_ascii {c : Char} (hc : c.toNat < 128) (hupper : isAsciiUpper c = false) :
    IsSmall c := by
  intro before after
  rw [lowerInContext, if_pos hc, asciiLowerChar, hupper]
  rfl

theorem smallForms_singleton {c form : Char} (hsmall : IsSmall form)
    (hblank : isBlank c = false → isBlank form = false) : SmallForms c [form] where
  ne_nil := List.cons_ne_nil _ _
  small := by
    intro other hother
    rwa [List.mem_singleton.mp hother]
  not_blank := by
    intro hc other hother
    rw [List.mem_singleton.mp hother]
    exact hblank hc

theorem smallForms_ascii {c : Char} (hc : c.toNat < 128) : SmallForms c [asciiLowerChar c] := by
  have hform : (asciiLowerChar c).toNat < 128 ∧ isAsciiUpper (asciiLowerChar c) = false ∧
      (isBlank c = false → isBlank (asciiLowerChar c) = false) :=
    ascii_forall (motive := fun c ↦ (asciiLowerChar c).toNat < 128 ∧
      isAsciiUpper (asciiLowerChar c) = false ∧
      (isBlank c = false → isBlank (asciiLowerChar c) = false)) (by decide) hc
  exact smallForms_singleton (isSmall_of_ascii hform.1 hform.2.1) hform.2.2

theorem smallForms_table {c : Char} (hc : ¬c.toNat < 128) (hdotted : (c == '\u0130') = false)
    (hsigma : (c == '\u03A3') = false) : SmallForms c [lowerByTable c] := by
  apply lowerByTable_elim (motive := fun form ↦ SmallForms c [form]) c
  · intro hnone
    apply smallForms_singleton
    · intro before after
      rw [lowerInContext, if_neg hc, hdotted, hsigma, lowerByTable_of_not_inRun hnone]
      rfl
    · exact id
  · intro point hplain hnone
    exact smallForms_singleton (isSmall_of_isPlain hplain hnone) fun _ ↦ (of_isPlain hplain).2.1

theorem isSmall_sigma : IsSmall '\u03C2' ∧ IsSmall '\u03C3' := by
  have hfinal : IsSmall (Char.ofNat 0x3C2) := isSmall_of_isPlain (by decide) (by decide +kernel)
  have hinner : IsSmall (Char.ofNat 0x3C3) := isSmall_of_isPlain (by decide) (by decide +kernel)
  exact ⟨hfinal, hinner⟩

/-- The dotted capital has two small forms, the letter and its dot. -/
theorem smallForms_dotted : SmallForms '\u0130' ['i', '\u0307'] where
  ne_nil := List.cons_ne_nil _ _
  small := by
    have hletter : IsSmall 'i' := isSmall_of_ascii (by decide) (by decide)
    have hdot : IsSmall (Char.ofNat 0x307) := isSmall_of_isPlain (by decide) (by decide +kernel)
    simpa using ⟨hletter, hdot⟩
  not_blank := by
    have hletter : isBlank 'i' = false := by decide
    have hdot : isBlank '\u0307' = false := by decide
    simpa using fun _ ↦ ⟨hletter, hdot⟩

theorem smallForms (before : List Char) (c : Char) (after : List Char) :
    SmallForms c (lowerInContext before c after) := by
  unfold lowerInContext
  split
  next hascii => exact smallForms_ascii hascii
  next hascii =>
    split
    next hdotted =>
      rw [beq_iff_eq.mp hdotted]
      exact smallForms_dotted
    next hdotted =>
      split
      next hsigma =>
        split
        · exact smallForms_singleton isSmall_sigma.1 fun _ ↦ by decide
        · exact smallForms_singleton isSmall_sigma.2 fun _ ↦ by decide
      next hsigma =>
        exact smallForms_table hascii (Bool.eq_false_iff.mpr hdotted) (Bool.eq_false_iff.mpr hsigma)

end Characters

section Texts

theorem lowerFrom_of_isSmall {chars : List Char} (h : ∀ c ∈ chars, IsSmall c)
    (before : List Char) : lowerFrom before chars = chars := by
  induction chars generalizing before with
  | nil => rfl
  | cons c after ih =>
    rw [lowerFrom, h c List.mem_cons_self, ih fun d hd ↦ h d (List.mem_cons_of_mem c hd)]
    rfl

/-- Text of ASCII only has its small letters without regard to what stands around them. -/
theorem lowercase_of_ascii {text : String} (h : ∀ c ∈ text.toList, c.toNat < 128) :
    lowercase text = asciiLower text := by
  have hchars (before chars : List Char) (hascii : ∀ c ∈ chars, c.toNat < 128) :
      lowerFrom before chars = chars.map asciiLowerChar := by
    induction chars generalizing before with
    | nil => rfl
    | cons c after ih =>
      rw [lowerFrom, lowerInContext, if_pos (hascii c List.mem_cons_self),
        ih _ fun d hd ↦ hascii d (List.mem_cons_of_mem c hd)]
      rfl
  rw [← String.toList_inj, lowercase, String.toList_ofList, hchars [] text.toList h, asciiLower,
    String.toList_map]

theorem isSmall_of_mem_lowerFrom {before chars : List Char} {form : Char}
    (h : form ∈ lowerFrom before chars) : IsSmall form := by
  induction chars generalizing before with
  | nil => cases h
  | cons c after ih =>
    rcases List.mem_append.mp h with hhead | htail
    · exact (smallForms before c after).small form hhead
    · exact ih htail

/-- Text in which white space stands at neither end. -/
def NoBlankEnds (chars : List Char) : Prop :=
  (∀ c ∈ chars.head?, isBlank c = false) ∧ ∀ c ∈ chars.getLast?, isBlank c = false

theorem noBlankEnds_trimmed (chars : List Char) : NoBlankEnds (trimEnd (trimStart chars)) := by
  have hprefix : trimEnd (trimStart chars) <+: trimStart chars := List.rdropWhile_prefix isBlank _
  constructor
  · intro c hc
    have hhead : (trimStart chars).head? = some c := by
      obtain ⟨rest, hrest⟩ := hprefix
      rw [← hrest, List.head?_append, Option.mem_def.mp hc]
      rfl
    have hnot := List.head?_dropWhile_not isBlank chars
    rw [show (List.dropWhile isBlank chars).head? = some c from hhead] at hnot
    exact hnot
  · intro c hc
    obtain ⟨hne, rfl⟩ := List.mem_getLast?_eq_getLast hc
    exact Bool.eq_false_iff.mpr (List.rdropWhile_last_not isBlank (trimStart chars) hne)

theorem trimmed_of_noBlankEnds {chars : List Char} (h : NoBlankEnds chars) :
    trimEnd (trimStart chars) = chars := by
  have hstart : trimStart chars = chars := by
    cases chars with
    | nil => rfl
    | cons c rest => exact List.dropWhile_cons_of_neg (Bool.eq_false_iff.mp (h.1 c rfl))
  rw [hstart]
  apply List.rdropWhile_eq_self_iff.mpr
  intro hne
  exact Bool.eq_false_iff.mp (h.2 _ (List.getLast?_eq_getLast_of_ne_nil hne))

theorem lowerFrom_ne_nil {before : List Char} (c : Char) (after : List Char) :
    lowerFrom before (c :: after) ≠ [] :=
  List.append_ne_nil_of_left_ne_nil (smallForms before c after).ne_nil _

/-- The last small form is one of the last character. -/
theorem getLast_lowerFrom_not_blank {before chars : List Char}
    (h : ∀ c ∈ chars.getLast?, isBlank c = false) :
    ∀ form ∈ (lowerFrom before chars).getLast?, isBlank form = false := by
  induction chars generalizing before with
  | nil => exact h
  | cons c after ih =>
    intro form hform
    cases after with
    | nil =>
      rw [lowerFrom, lowerFrom, List.append_nil] at hform
      exact (smallForms before c []).not_blank (h c rfl) form (List.mem_of_mem_getLast? hform)
    | cons d after =>
      rw [lowerFrom, List.getLast?_append_of_ne_nil _ (lowerFrom_ne_nil d after)] at hform
      exact ih h form hform

theorem NoBlankEnds.lowerFrom {chars : List Char} (h : NoBlankEnds chars) (before : List Char) :
    NoBlankEnds (lowerFrom before chars) := by
  refine ⟨?_, getLast_lowerFrom_not_blank h.2⟩
  cases chars with
  | nil => exact h.1
  | cons c after =>
    intro form hform
    have hforms := smallForms before c after
    apply hforms.not_blank (h.1 c rfl)
    rw [Text.lowerFrom, List.head?_append_of_ne_nil _ hforms.ne_nil] at hform
    exact List.mem_of_mem_head? hform

theorem lowercase_eq_empty_iff {text : String} : lowercase text = "" ↔ text = "" := by
  rw [← String.toList_inj, ← String.toList_inj, lowercase, String.toList_ofList]
  cases text.toList with
  | nil => exact iff_of_true rfl rfl
  | cons c after => exact iff_of_false (lowerFrom_ne_nil c after) (List.cons_ne_nil c after)

theorem lowercase_lowercase (text : String) : lowercase (lowercase text) = lowercase text := by
  unfold lowercase
  rw [String.toList_ofList, lowerFrom_of_isSmall fun form ↦ isSmall_of_mem_lowerFrom]

theorem trim_lowercase_trim (text : String) :
    trim (lowercase (trim text)) = lowercase (trim text) := by
  have hsmall : NoBlankEnds (lowerFrom [] (trimEnd (trimStart text.toList))) :=
    (noBlankEnds_trimmed text.toList).lowerFrom []
  unfold lowercase trim
  simp only [String.toList_ofList]
  rw [trimmed_of_noBlankEnds hsmall]

theorem lowercase_trim_idempotent (text : String) :
    lowercase (trim (lowercase (trim text))) = lowercase (trim text) := by
  rw [trim_lowercase_trim, lowercase_lowercase]

/-- Characters after the 128th are no letters of ASCII. -/
theorem asciiChars_of_not_ascii {c : Char} (h : ¬c.toNat < 128) :
    asciiLowerChar c = c ∧ asciiUpperChar c = c := by
  have hoff {last : Char} (hlast : last.toNat < 128) : decide (c ≤ last) = false := by
    rw [decide_eq_false_iff_not]
    intro hle
    exact h (Nat.lt_of_le_of_lt (UInt32.le_iff_toNat_le.mp (Char.le_def.mp hle)) hlast)
  constructor
  · rw [asciiLowerChar, isAsciiUpper, hoff (show 'Z'.toNat < 128 by decide), Bool.and_false]
    rfl
  · rw [asciiUpperChar, hoff (show 'z'.toNat < 128 by decide), Bool.and_false]
    rfl

/-- Among small letters there is no capital. -/
theorem asciiLower_lowercase (text : String) : asciiLower (lowercase text) = lowercase text := by
  have hsmall {c : Char} (h : IsSmall c) : asciiLowerChar c = c := by
    by_cases hascii : c.toNat < 128
    · have hform := h [] []
      rw [lowerInContext, if_pos hascii] at hform
      exact List.singleton_injective hform
    · exact (asciiChars_of_not_ascii hascii).1
  rw [← String.toList_inj, asciiLower, String.toList_map, lowercase, String.toList_ofList]
  calc
    (lowerFrom [] text.toList).map asciiLowerChar = (lowerFrom [] text.toList).map id :=
      List.map_congr_left fun c hc ↦ hsmall (isSmall_of_mem_lowerFrom hc)
    _ = lowerFrom [] text.toList := List.map_id _

/-- Text in the capitals of ASCII and in its small letters is told apart alike. -/
theorem asciiUpper_eq_iff {text other : String} :
    asciiUpper text = asciiUpper other ↔ asciiLower text = asciiLower other := by
  have hchar (c : Char) : asciiLowerChar (asciiUpperChar c) = asciiLowerChar c ∧
      asciiUpperChar (asciiLowerChar c) = asciiUpperChar c := by
    by_cases hascii : c.toNat < 128
    · exact ascii_forall (motive := fun c ↦ asciiLowerChar (asciiUpperChar c) = asciiLowerChar c ∧
        asciiUpperChar (asciiLowerChar c) = asciiUpperChar c) (by decide) hascii
    · obtain ⟨hlower, hupper⟩ := asciiChars_of_not_ascii hascii
      rw [hlower, hupper]
      exact ⟨hlower, rfl⟩
  have hlower (text : String) : asciiLower (asciiUpper text) = asciiLower text := by
    simp [← String.toList_inj, asciiLower, asciiUpper, hchar]
  have hupper (text : String) : asciiUpper (asciiLower text) = asciiUpper text := by
    simp [← String.toList_inj, asciiLower, asciiUpper, hchar]
  constructor
  · intro h
    rw [← hlower, h, hlower]
  · intro h
    rw [← hupper, h, hupper]

end Texts

end FareSearch.Text
