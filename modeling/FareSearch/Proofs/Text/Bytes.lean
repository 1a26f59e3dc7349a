import Mathlib.Data.List.Lex
import Mathlib.Data.String.Basic
import Mathlib.Data.UInt

/-!
# The order of texts and of their bytes

Texts are compared character by character. Comparing their bytes in UTF-8 instead makes no
difference: of two characters the lesser one has the lesser bytes, already where these first differ.
-/

namespace FareSearch.Text

/-- The bytes of a text in UTF-8. -/
def bytes (text : String) : List UInt8 :=
  text.toUTF8.data.toList

theorem bytes_eq_flatMap (text : String) :
    bytes text = text.toList.flatMap String.utf8EncodeChar := by
  conv => lhs; rw [bytes, ← String.ofList_toList (s := text)]
  exact List.toList_data_toByteArray

theorem ofNat_cons_lt_iff {left right : ℕ} (hleft : left < 256) (hright : right < 256)
    (more others : List UInt8) :
    UInt8.ofNat left :: more < UInt8.ofNat right :: others ↔
      left < right ∨ left = right ∧ more < others := by
  rw [List.cons_lt_cons_iff, UInt8.lt_iff_toNat_lt, ← UInt8.toNat_inj, UInt8.toNat_ofNat',
    UInt8.toNat_ofNat', Nat.mod_eq_of_lt hleft, Nat.mod_eq_of_lt hright]

theorem digit_lt {left right : ℕ} (h : left < right) :
    left / 64 < right / 64 ∨ left / 64 = right / 64 ∧ left % 64 < right % 64 := by
  omega

/-- Numbers of at most 21 bits are in the order of their digits to the base 64. -/
theorem digits_lt {left right : ℕ} (h : left < right) (hright : right < 2 ^ 21) :
    left / 262144 % 8 < right / 262144 % 8 ∨ left / 262144 % 8 = right / 262144 % 8 ∧
      (left / 4096 % 64 < right / 4096 % 64 ∨ left / 4096 % 64 = right / 4096 % 64 ∧
        (left / 64 % 64 < right / 64 % 64 ∨ left / 64 % 64 = right / 64 % 64 ∧
          left % 64 < right % 64)) := by
  have hquotients (value : ℕ) :
      value / 4096 = value / 64 / 64 ∧ value / 262144 = value / 64 / 64 / 64 := by
    simp only [Nat.div_div_eq_div_mul, and_self]
  have hlead (value : ℕ) (hvalue : value < 2 ^ 21) :
      value / 64 / 64 / 64 % 8 = value / 64 / 64 / 64 := by
    omega
  rw [(hquotients left).1, (hquotients left).2, (hquotients right).1, (hquotients right).2,
    hlead left (h.trans hright), hlead right hright]
  rcases digit_lt h with hfirst | ⟨hfirst, hlast⟩
  · rcases digit_lt hfirst with hsecond | ⟨hsecond, hlast⟩
    · rcases digit_lt hsecond with hthird | ⟨hthird, hlast⟩
      · exact .inl hthird
      · simp [hthird, hlast]
    · simp [hsecond, hlast]
  · simp [hfirst, hlast]

/-- A lesser character has lesser bytes, whatever follows. -/
theorem utf8EncodeChar_append_lt {left right : Char} (h : left < right)
    (more others : List UInt8) :
    String.utf8EncodeChar left ++ more < String.utf8EncodeChar right ++ others := by
  have hlt : left.val.toNat < right.val.toNat := h
  have hright : right.val.toNat < 2 ^ 21 := by
    rcases right.valid with hlow | ⟨-, hhigh⟩
    · exact Nat.lt_trans hlow (by decide)
    · exact Nat.lt_trans hhigh (by decide)
  have hdigits := digits_lt hlt hright
  unfold String.utf8EncodeChar
  generalize left.val.toNat = leftCode at hlt hdigits
  generalize right.val.toNat = rightCode at hlt hright hdigits
  dsimp only
  -- With the same number of bytes the first digits that differ decide, otherwise the first bytes.
  split_ifs
  all_goals
    simp (disch := omega) only [List.cons_append, List.nil_append, ofNat_cons_lt_iff]
    rcases hdigits with hlead | ⟨hlead, hsecond | ⟨hsecond, hthird | ⟨hthird, hlast⟩⟩⟩ <;> omega

theorem flatMap_utf8EncodeChar_lt {left right : List Char} (h : left < right) :
    left.flatMap String.utf8EncodeChar < right.flatMap String.utf8EncodeChar := by
  induction left generalizing right with
  | nil =>
    cases right with
    | nil => exact absurd h (List.lt_irrefl [])
    | cons first rest =>
      obtain ⟨byte, others, hbytes⟩ :=
        List.exists_cons_of_ne_nil (String.utf8EncodeChar_ne_nil (c := first))
      rw [List.flatMap_nil, List.flatMap_cons, hbytes]
      exact List.nil_lt_cons byte _
  | cons first rest ih =>
    cases right with
    | nil => exact absurd h (List.not_lt_nil _)
    | cons other others =>
      rw [List.flatMap_cons, List.flatMap_cons]
      rcases List.cons_lt_cons_iff.mp h with hlt | ⟨rfl, hlt⟩
      · exact utf8EncodeChar_append_lt hlt _ _
      · exact List.append_left_lt (ih hlt)

theorem bytes_lt_bytes_iff {left right : String} : bytes left < bytes right ↔ left < right := by
  have hmono {left right : String} (h : left < right) : bytes left < bytes right := by
    rw [bytes_eq_flatMap, bytes_eq_flatMap]
    exact flatMap_utf8EncodeChar_lt (String.lt_iff_toList_lt.mp h)
  constructor
  · intro h
    rcases lt_trichotomy left right with hlt | rfl | hlt
    · exact hlt
    · exact absurd h (List.lt_irrefl _)
    · exact absurd h (List.lt_asymm (hmono hlt))
  · exact hmono

end FareSearch.Text
