import FareSearch.Proofs.Text.Lowercase
import Mathlib.Data.List.Count

/-!
# Small letters of joined texts

A bar has no case, and the rule for the final sigma does not look through it. So the small letters
of texts that are joined with bars are the small letters of each text, joined with bars. No letter
becomes a bar either: a text has as many bars as its small letters have.
-/

namespace FareSearch.Text

section Context

variable {c barrier : Char}

/-- A character without case at which the search for a cased one ends. -/
structure IsBarrier (c : Char) : Prop where
  not_cased : isCased c = false
  not_ignorable : isCaseIgnorable c = false

theorem isBarrier_bar : IsBarrier '|' where
  not_cased := by decide +kernel
  not_ignorable := by decide +kernel

theorem meetsCased_cons (c : Char) (rest : List Char) :
    meetsCased (c :: rest) = if isCaseIgnorable c then meetsCased rest else isCased c := by
  unfold meetsCased
  rw [List.dropWhile_cons]
  by_cases hignorable : isCaseIgnorable c = true
  · rw [if_pos hignorable, if_pos hignorable]
  · rw [if_neg hignorable, if_neg hignorable]

/-- What stands beyond a barrier is not looked at. -/
theorem IsBarrier.meetsCased_append (h : IsBarrier barrier) (chars beyond : List Char) :
    meetsCased (chars ++ barrier :: beyond) = meetsCased chars := by
  induction chars with
  | nil =>
    rw [List.nil_append, meetsCased_cons, h.not_ignorable, if_neg Bool.false_ne_true, h.not_cased]
    rfl
  | cons c rest ih => rw [List.cons_append, meetsCased_cons, meetsCased_cons, ih]

theorem IsBarrier.lowerInContext_after (h : IsBarrier barrier) (before after beyond : List Char) :
    lowerInContext before c (after ++ barrier :: beyond) = lowerInContext before c after := by
  rw [lowerInContext, lowerInContext, h.meetsCased_append]

theorem IsBarrier.lowerInContext_before (h : IsBarrier barrier) (before after beyond : List Char) :
    lowerInContext (before ++ barrier :: beyond) c after = lowerInContext before c after := by
  rw [lowerInContext, lowerInContext, h.meetsCased_append]

theorem IsBarrier.lowerFrom_before (h : IsBarrier barrier) (before beyond chars : List Char) :
    lowerFrom (before ++ barrier :: beyond) chars = lowerFrom before chars := by
  induction chars generalizing before with
  | nil => rfl
  | cons c after ih =>
    rw [lowerFrom, lowerFrom, h.lowerInContext_before, ← List.cons_append, ih]

/-- On both sides of a barrier the letters are small as if the other side were not there. -/
theorem IsBarrier.lowerFrom_append (h : IsBarrier barrier) (before left right : List Char) :
    lowerFrom before (left ++ barrier :: right) =
      lowerFrom before left ++ lowerInContext (left.reverse ++ before) barrier right ++
        lowerFrom [] right := by
  induction left generalizing before with
  | nil =>
    calc
      lowerFrom before (barrier :: right) =
          lowerInContext before barrier right ++ lowerFrom ([] ++ barrier :: before) right := rfl
      _ = lowerInContext before barrier right ++ lowerFrom [] right := by rw [h.lowerFrom_before]
  | cons c left ih =>
    rw [List.cons_append, lowerFrom, lowerFrom, h.lowerInContext_after, ih, List.reverse_cons]
    simp only [List.append_assoc, List.singleton_append]

end Context

section Joined

theorem lowercase_append_bar (left right : String) :
    lowercase (left ++ "|" ++ right) = lowercase left ++ "|" ++ lowercase right := by
  have hbar : IsSmall '|' := isSmall_of_ascii (by decide) (by decide)
  rw [← String.toList_inj]
  simp only [lowercase, String.toList_append, String.toList_ofList, List.append_assoc]
  rw [show "|".toList = ['|'] from rfl, List.singleton_append, isBarrier_bar.lowerFrom_append,
    hbar, List.append_assoc]

theorem lowercase_intercalate_bar (texts : List String) :
    lowercase ("|".intercalate texts) = "|".intercalate (texts.map lowercase) := by
  induction texts with
  | nil => rfl
  | cons text rest ih =>
    cases rest with
    | nil => rw [List.map_singleton, String.intercalate_singleton, String.intercalate_singleton]
    | cons next rest =>
      rw [String.intercalate_cons_cons, lowercase_append_bar, ih]
      simp only [List.map_cons, String.intercalate_cons_cons]

end Joined

section Bars

/-- No run of the table has the bar among its images. -/
theorem lowercaseRuns_clear : lowercaseRuns.all (fun run ↦
    124 < image run run.1 || image run run.2.1 < 124) = true := by
  decide +kernel

theorem lowerByTable_ne_bar {c : Char} (hc : c ≠ '|') : lowerByTable c ≠ '|' := by
  have hclear := List.all_eq_true.mp lowercaseRuns_clear
  have hsettled := List.all_eq_true.mp lowercaseRuns_settled
  unfold lowerByTable
  dsimp only
  split
  next first last step shift hfound =>
    have hin : inRun (first, last, step, shift) c.toNat = true := by
      have hsome := List.find?_some hfound
      exact hsome
    have hmem := List.mem_of_find?_eq_some hfound
    have hplain := (Bool.and_eq_true_iff.mp (hsettled _ hmem)).1
    obtain ⟨hpoint, -⟩ := of_isPlain (isPlain_image hplain hin)
    have hapart := hclear _ hmem
    intro hbar
    have hcode : image (first, last, step, shift) c.toNat = 124 := by
      rw [← hpoint]
      exact congrArg Char.toNat hbar
    simp only [inRun, Bool.and_eq_true, decide_eq_true_eq] at hin
    simp only [Bool.or_eq_true, decide_eq_true_eq] at hapart
    unfold image at *
    omega
  next => exact hc

theorem count_lowerInContext (before : List Char) (c : Char) (after : List Char) :
    (lowerInContext before c after).count '|' = [c].count '|' := by
  have hcount {x y : Char} (h : x = '|' ↔ y = '|') : [x].count '|' = [y].count '|' := by
    rw [List.count_singleton, List.count_singleton]
    simp only [beq_iff_eq, h]
  unfold lowerInContext
  split
  next hascii =>
    exact hcount (ascii_forall (motive := fun c ↦ asciiLowerChar c = '|' ↔ c = '|')
      (by decide) hascii)
  next hascii =>
    have hc : c ≠ '|' := by
      intro hbar
      exact hascii (hbar ▸ by decide)
    have hnone : [c].count '|' = 0 := List.count_eq_zero.mpr (by simpa using hc.symm)
    split
    · rw [hnone]
      decide
    · split
      · rw [hnone]
        split <;> decide
      · exact hcount (iff_of_false (lowerByTable_ne_bar hc) hc)

theorem count_lowerFrom (before chars : List Char) :
    (lowerFrom before chars).count '|' = chars.count '|' := by
  induction chars generalizing before with
  | nil => rfl
  | cons c after ih =>
    rw [lowerFrom, List.count_append, count_lowerInContext, ih, ← List.count_append,
      List.singleton_append]

/-- The bars of a text. -/
def bars (text : String) : ℕ :=
  text.toList.count '|'

theorem bars_lowercase (text : String) : bars (lowercase text) = bars text := by
  rw [bars, lowercase, String.toList_ofList, count_lowerFrom, bars]

theorem bars_eq_zero {text : String} : bars text = 0 ↔ '|' ∉ text.toList :=
  List.count_eq_zero

end Bars

end FareSearch.Text
