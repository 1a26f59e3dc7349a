/-!
# Cutting joined texts

Where texts were joined with a separator that does not occur in them, they can be told apart again:
from the front as long as the first one lacks the separator, and from the back as long as the last
one does. It is enough that both first texts contain the separator equally often.
-/

namespace FareSearch.Text

/-- A prefix of characters of one kind ends where the first character of another kind stands. -/
theorem append_cons_inj (kind : Char → Prop) {left left' right right' : List Char} {c c' : Char}
    (hleft : ∀ x ∈ left, kind x) (hleft' : ∀ x ∈ left', kind x) (hc : ¬kind c) (hc' : ¬kind c')
    (h : left ++ c :: right = left' ++ c' :: right') : left = left' ∧ c = c' ∧ right = right' := by
  induction left generalizing left' with
  | nil =>
    cases left' with
    | nil =>
      obtain ⟨hchar, hrest⟩ := List.cons.inj h
      exact ⟨rfl, hchar, hrest⟩
    | cons first rest =>
      obtain ⟨hchar, -⟩ := List.cons.inj h
      exact absurd (hchar ▸ hleft' first List.mem_cons_self) hc
  | cons first rest ih =>
    cases left' with
    | nil =>
      obtain ⟨hchar, -⟩ := List.cons.inj h
      exact absurd (hchar ▸ hleft first List.mem_cons_self) hc'
    | cons first' rest' =>
      obtain ⟨rfl, hrest⟩ := List.cons.inj h
      obtain ⟨rfl, hchar, hright⟩ := ih (fun x hx ↦ hleft x (List.mem_cons_of_mem _ hx))
        (fun x hx ↦ hleft' x (List.mem_cons_of_mem _ hx)) hrest
      exact ⟨rfl, hchar, hright⟩

/-- Two prefixes with as many characters before a next one of these end at the same place. -/
theorem append_cons_inj_of_count_eq {c : Char} {left left' right right' : List Char}
    (hcount : left.count c = left'.count c) (h : left ++ c :: right = left' ++ c :: right') :
    left = left' ∧ right = right' := by
  induction left generalizing left' with
  | nil =>
    cases left' with
    | nil => exact ⟨rfl, (List.cons.inj h).2⟩
    | cons first' rest' =>
      obtain ⟨rfl, -⟩ := List.cons.inj h
      simp at hcount
  | cons first rest ih =>
    cases left' with
    | nil =>
      obtain ⟨rfl, -⟩ := List.cons.inj h
      simp at hcount
    | cons first' rest' =>
      obtain ⟨rfl, hrest⟩ := List.cons.inj h
      rw [List.count_cons, List.count_cons, Nat.add_right_cancel_iff] at hcount
      obtain ⟨rfl, hright⟩ := ih hcount hrest
      exact ⟨rfl, hright⟩

section Separated

variable {c : Char} {separator left left' right right' : String}

/-- Texts joined with a separator can be told apart if the first ones lack it. -/
theorem cut_first (hseparator : separator.toList = [c]) (hleft : c ∉ left.toList)
    (hleft' : c ∉ left'.toList) (h : left ++ separator ++ right = left' ++ separator ++ right') :
    left = left' ∧ right = right' := by
  have hchars := congrArg String.toList h
  simp only [String.toList_append, hseparator, List.append_assoc, List.singleton_append] at hchars
  obtain ⟨hfirst, -, hlast⟩ := append_cons_inj (· ≠ c)
    (fun x hx hxc ↦ hleft (hxc ▸ hx)) (fun x hx hxc ↦ hleft' (hxc ▸ hx)) (by simp) (by simp) hchars
  exact ⟨String.toList_injective hfirst, String.toList_injective hlast⟩

/-- Texts joined with a separator can be told apart if the first ones have it equally often. -/
theorem cut_counted (hseparator : separator.toList = [c])
    (hcount : left.toList.count c = left'.toList.count c)
    (h : left ++ separator ++ right = left' ++ separator ++ right') :
    left = left' ∧ right = right' := by
  have hchars := congrArg String.toList h
  simp only [String.toList_append, hseparator, List.append_assoc, List.singleton_append] at hchars
  obtain ⟨hfirst, hlast⟩ := append_cons_inj_of_count_eq hcount hchars
  exact ⟨String.toList_injective hfirst, String.toList_injective hlast⟩

/-- Texts joined with a separator can be told apart if the last ones lack it. -/
theorem cut_last (hseparator : separator.toList = [c]) (hright : c ∉ right.toList)
    (hright' : c ∉ right'.toList) (h : left ++ separator ++ right = left' ++ separator ++ right') :
    left = left' ∧ right = right' := by
  have hchars := congrArg (fun text ↦ text.toList.reverse) h
  simp only [String.toList_append, hseparator, List.reverse_append, List.reverse_singleton,
    List.singleton_append] at hchars
  obtain ⟨hlast, -, hfirst⟩ := append_cons_inj (· ≠ c)
    (fun x hx hxc ↦ hright (hxc ▸ List.mem_reverse.mp hx))
    (fun x hx hxc ↦ hright' (hxc ▸ List.mem_reverse.mp hx)) (by simp) (by simp) hchars
  exact ⟨String.toList_injective (List.reverse_inj.mp hfirst),
    String.toList_injective (List.reverse_inj.mp hlast)⟩

/-- As many texts that lack the separator can be told apart from what follows them. -/
theorem intercalate_append_inj {parts parts' rest rest' : List String}
    (hseparator : separator.toList = [c]) (hparts : ∀ part ∈ parts, c ∉ part.toList)
    (hparts' : ∀ part ∈ parts', c ∉ part.toList) (hrest : rest ≠ []) (hrest' : rest' ≠ [])
    (hlength : parts.length = parts'.length)
    (h : separator.intercalate (parts ++ rest) = separator.intercalate (parts' ++ rest')) :
    parts = parts' ∧ separator.intercalate rest = separator.intercalate rest' := by
  induction parts generalizing parts' with
  | nil =>
    rw [List.length_nil, eq_comm, List.length_eq_zero_iff] at hlength
    subst hlength
    exact ⟨rfl, h⟩
  | cons part parts ih =>
    cases parts' with
    | nil => simp at hlength
    | cons part' parts' =>
      rw [List.cons_append, List.cons_append,
        String.intercalate_cons_of_ne_nil (List.append_ne_nil_of_right_ne_nil parts hrest),
        String.intercalate_cons_of_ne_nil (List.append_ne_nil_of_right_ne_nil parts' hrest')] at h
      obtain ⟨hpart, htail⟩ := cut_first hseparator (hparts part List.mem_cons_self)
        (hparts' part' List.mem_cons_self) h
      obtain ⟨rfl, hfollowing⟩ := ih (fun x hx ↦ hparts x (List.mem_cons_of_mem _ hx))
        (fun x hx ↦ hparts' x (List.mem_cons_of_mem _ hx)) (Nat.succ_inj.mp hlength) htail
      exact ⟨by rw [hpart], hfollowing⟩

theorem intercalate_ne_nil {names : List String} (hnames : ∀ name ∈ names, name ≠ "")
    (hnil : names ≠ []) : (separator.intercalate names).toList ≠ [] := by
  cases names with
  | nil => exact absurd rfl hnil
  | cons name rest =>
    have hname : name.toList ≠ [] := by
      intro hempty
      exact hnames name List.mem_cons_self (String.toList_injective hempty)
    by_cases hrest : rest = []
    · rw [hrest, String.intercalate_singleton]
      exact hname
    · rw [String.intercalate_cons_of_ne_nil hrest, String.append_assoc, String.toList_append]
      exact List.append_ne_nil_of_left_ne_nil hname _

/-- Texts that are not empty and lack the separator are found again by splitting at it. -/
theorem splitOn_intercalate {names : List String} (hseparator : separator.toList = [c])
    (hnames : ∀ name ∈ names, c ∉ name.toList) (hnil : names ≠ []) :
    ((separator.intercalate names).toList.splitOn c).map String.ofList = names := by
  have hlacks : ∀ chars ∈ names.map String.toList, c ∉ chars := by
    intro chars hchars
    obtain ⟨name, hname, rfl⟩ := List.mem_map.mp hchars
    exact hnames name hname
  have hsome : names.map String.toList ≠ [] := by simpa using hnil
  rw [String.toList_intercalate, hseparator, List.splitOn_intercalate c hlacks hsome, List.map_map]
  exact List.map_id'' (fun _ ↦ String.ofList_toList) names

theorem intercalate_inj {names names' : List String} (hseparator : separator.toList = [c])
    (hempty : ∀ name ∈ names, name ≠ "") (hempty' : ∀ name ∈ names', name ≠ "")
    (hlacks : ∀ name ∈ names, c ∉ name.toList) (hlacks' : ∀ name ∈ names', c ∉ name.toList)
    (h : separator.intercalate names = separator.intercalate names') : names = names' := by
  by_cases hnil : names = []
  · by_cases hnil' : names' = []
    · rw [hnil, hnil']
    · rw [hnil, String.intercalate_nil] at h
      exact absurd (congrArg String.toList h).symm (intercalate_ne_nil hempty' hnil')
  · by_cases hnil' : names' = []
    · rw [hnil', String.intercalate_nil] at h
      exact absurd (congrArg String.toList h) (intercalate_ne_nil hempty hnil)
    · rw [← splitOn_intercalate hseparator hlacks hnil, h,
        splitOn_intercalate hseparator hlacks' hnil']

/-- Texts that contain the separator equally often, each one as its counterpart, are told by their
join. -/
theorem intercalate_inj_of_count {names names' : List String} (hseparator : separator.toList = [c])
    (hcounts : names.map (·.toList.count c) = names'.map (·.toList.count c))
    (h : separator.intercalate names = separator.intercalate names') : names = names' := by
  induction names generalizing names' with
  | nil => exact (List.map_eq_nil_iff.mp hcounts.symm).symm
  | cons name rest ih =>
    cases names' with
    | nil => cases hcounts
    | cons name' rest' =>
      obtain ⟨hcount, hfollowing⟩ := List.cons.inj hcounts
      by_cases hrest : rest = []
      · obtain rfl : rest' = [] := by simpa [hrest] using hfollowing.symm
        rw [hrest, String.intercalate_singleton, String.intercalate_singleton] at h
        rw [hrest, h]
      · have hrest' : rest' ≠ [] := by
          rintro rfl
          exact hrest (List.map_eq_nil_iff.mp hfollowing)
        rw [String.intercalate_cons_of_ne_nil hrest, String.intercalate_cons_of_ne_nil hrest'] at h
        obtain ⟨rfl, htail⟩ := cut_counted hseparator hcount h
        rw [ih hfollowing htail]

end Separated

end FareSearch.Text
