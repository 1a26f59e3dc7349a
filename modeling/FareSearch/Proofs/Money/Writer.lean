import FareSearch.Money.Amount
import FareSearch.Proofs.Calendar.Writer

/-!
# What an amount can be read from

The text of an amount tells its sign, its magnitude and its number of places.
-/

namespace FareSearch.Amount

open Calendar

/-- The point stands in a padded number, before as many digits as there are places. -/
theorem exists_digitsText {scale : ℕ} (hscale : scale ≠ 0) (magnitude : ℕ) :
    ∃ whole fraction, digitsText magnitude scale = whole ++ '.' :: fraction ∧
      whole ++ fraction = (padded (scale + 1) magnitude).toList ∧ fraction.length = scale := by
  have hlength : scale < (padded (scale + 1) magnitude).toList.length := by
    rw [toList_padded, List.length_append, List.length_replicate]
    omega
  refine ⟨(padded (scale + 1) magnitude).toList.take
      ((padded (scale + 1) magnitude).toList.length - scale),
    (padded (scale + 1) magnitude).toList.drop
      ((padded (scale + 1) magnitude).toList.length - scale), ?_, List.take_append_drop _ _, ?_⟩
  · rw [toList_padded]
    simp [digitsText, hscale, List.splitAt_eq]
  · rw [List.length_drop]
    omega

theorem point_not_mem_toDigits (magnitude : ℕ) : '.' ∉ Nat.toDigits 10 magnitude := by
  intro hmem
  have hdigit := Nat.isDigit_of_mem_toDigits (by decide) (by decide) hmem
  exact absurd hdigit (by decide)

theorem digitsText_inj {magnitude magnitude' scale scale' : ℕ}
    (h : digitsText magnitude scale = digitsText magnitude' scale') :
    magnitude = magnitude' ∧ scale = scale' := by
  by_cases hscale : scale = 0
  · by_cases hscale' : scale' = 0
    · rw [digitsText, if_pos hscale, digitsText, if_pos hscale'] at h
      refine ⟨?_, hscale.trans hscale'.symm⟩
      calc
        magnitude = Nat.ofDigitChars 10 (Nat.toDigits 10 magnitude) 0 :=
          Nat.ofDigitChars_ten_toDigits.symm
        _ = Nat.ofDigitChars 10 (Nat.toDigits 10 magnitude') 0 := by rw [h]
        _ = magnitude' := Nat.ofDigitChars_ten_toDigits
    · obtain ⟨whole, fraction, htext, -, -⟩ := exists_digitsText hscale' magnitude'
      rw [digitsText, if_pos hscale, htext] at h
      exact absurd (h ▸ List.mem_append_right whole List.mem_cons_self)
        (point_not_mem_toDigits magnitude)
  · obtain ⟨whole, fraction, htext, hdigits, hlength⟩ := exists_digitsText hscale magnitude
    by_cases hscale' : scale' = 0
    · rw [digitsText.eq_def magnitude', if_pos hscale', htext] at h
      exact absurd (h ▸ List.mem_append_right whole List.mem_cons_self)
        (point_not_mem_toDigits magnitude')
    · obtain ⟨whole', fraction', htext', hdigits', hlength'⟩ := exists_digitsText hscale' magnitude'
      have hwhole : ∀ c ∈ whole, c.isDigit = true := fun c hc ↦
        isDigit_of_mem_padded (hdigits ▸ List.mem_append_left fraction hc)
      have hwhole' : ∀ c ∈ whole', c.isDigit = true := fun c hc ↦
        isDigit_of_mem_padded (hdigits' ▸ List.mem_append_left fraction' hc)
      rw [htext, htext'] at h
      obtain ⟨rfl, -, rfl⟩ :=
        Text.append_cons_inj (·.isDigit = true) hwhole hwhole' (by decide) (by decide) h
      have hnumbers : padded (scale + 1) magnitude = padded (scale' + 1) magnitude' :=
        String.toList_injective (hdigits.symm.trans hdigits')
      exact ⟨padded_inj hnumbers, hlength.symm.trans hlength'⟩

theorem isDigit_or_point_of_mem {magnitude scale : ℕ} {c : Char}
    (h : c ∈ digitsText magnitude scale) : c.isDigit = true ∨ c = '.' := by
  by_cases hscale : scale = 0
  · rw [digitsText, if_pos hscale] at h
    exact .inl (Nat.isDigit_of_mem_toDigits (by decide) (by decide) h)
  · obtain ⟨whole, fraction, htext, hdigits, -⟩ := exists_digitsText hscale magnitude
    rw [htext, List.mem_append, List.mem_cons] at h
    rcases h with hwhole | hpoint | hfraction
    · exact .inl (isDigit_of_mem_padded (hdigits ▸ List.mem_append_left fraction hwhole))
    · exact .inr hpoint
    · exact .inl (isDigit_of_mem_padded (hdigits ▸ List.mem_append_right whole hfraction))

theorem digitsText_ne_nil (magnitude scale : ℕ) : digitsText magnitude scale ≠ [] := by
  by_cases hscale : scale = 0
  · rw [digitsText, if_pos hscale]
    exact Nat.toDigits_ne_nil
  · obtain ⟨whole, fraction, htext, -, -⟩ := exists_digitsText hscale magnitude
    rw [htext]
    simp

theorem isNumeral_text (amount : Amount) : IsNumeral amount.text := by
  have hdigits : IsNumeral (String.ofList (digitsText amount.magnitude amount.scale)) := by
    intro c hc
    rw [String.toList_ofList] at hc
    rcases isDigit_or_point_of_mem hc with hdigit | rfl
    · rw [isNumeralChar, hdigit]
      rfl
    · rfl
  unfold text
  split
  · exact .append (by decide) hdigits
  · exact hdigits

theorem text_ne_empty (amount : Amount) : amount.text ≠ "" := by
  intro h
  have hchars := congrArg String.toList h
  unfold text at hchars
  split at hchars
  · simp at hchars
  · rw [String.toList_ofList] at hchars
    exact digitsText_ne_nil _ _ hchars

/-- The digits of an amount do not begin with its sign. -/
theorem ofList_digitsText_ne (magnitude scale : ℕ) (text : String) :
    String.ofList (digitsText magnitude scale) ≠ "-" ++ text := by
  intro h
  have hmem : '-' ∈ digitsText magnitude scale := by
    have hchars := congrArg String.toList h
    rw [String.toList_ofList, String.toList_append] at hchars
    rw [hchars]
    exact List.mem_cons_self
  rcases isDigit_or_point_of_mem hmem with hdigit | hpoint
  · exact absurd hdigit (by decide)
  · exact absurd hpoint (by decide)

theorem text_inj {x y : Amount} (h : x.text = y.text) : x = y := by
  unfold text at h
  cases hx : x.negative with
  | true =>
    cases hy : y.negative with
    | true =>
      rw [hx, hy, if_pos rfl, if_pos rfl, String.append_right_inj, String.ofList_inj] at h
      obtain ⟨hmagnitude, hscale⟩ := digitsText_inj h
      exact Amount.ext (hx.trans hy.symm) hmagnitude hscale
    | false =>
      rw [hx, hy, if_pos rfl, if_neg Bool.false_ne_true] at h
      exact absurd h.symm (ofList_digitsText_ne _ _ _)
  | false =>
    cases hy : y.negative with
    | true =>
      rw [hx, hy, if_pos rfl, if_neg Bool.false_ne_true] at h
      exact absurd h (ofList_digitsText_ne _ _ _)
    | false =>
      rw [hx, hy, if_neg Bool.false_ne_true, if_neg Bool.false_ne_true, String.ofList_inj] at h
      obtain ⟨hmagnitude, hscale⟩ := digitsText_inj h
      exact Amount.ext (hx.trans hy.symm) hmagnitude hscale

end FareSearch.Amount
