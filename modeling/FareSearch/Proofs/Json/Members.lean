import FareSearch.Json.Record
import Mathlib.Tactic.Cases

/-!
# What an object says

An object says a value under a name if one member has the name and its value is read as that value.
A field of a record is read from an object just if the object says it; optional fields may be null
or left out, and fields with a default may be left out.
-/

namespace FareSearch.Json

variable {α : Type} {members : List (String × Json)} {name : String}

/-- No member of an object has the name. -/
def Omits (members : List (String × Json)) (name : String) : Prop :=
  ∀ member ∈ members, member.1 ≠ name

/-- One member of an object has the name, and it has the value. -/
def Gives (members : List (String × Json)) (name : String) (value : Json) : Prop :=
  ∃ before after, members = before ++ (name, value) :: after ∧ Omits (before ++ after) name

/-- An object says a value under the name. -/
def Says (members : List (String × Json)) (name : String) (reader : Reader α) (value : α) : Prop :=
  ∃ json, Gives members name json ∧ reader json = some value

/-- An object says a value under the name; null or nothing stand for none. -/
def SaysOptional (members : List (String × Json)) (name : String) (reader : Reader α) :
    Option α → Prop
  | some value => ∃ json, Gives members name json ∧ json ≠ .null ∧ reader json = some value
  | none => Gives members name .null ∨ Omits members name

/-- An object says a value under the name; nothing stands for the default. -/
def SaysOrDefault (members : List (String × Json)) (name : String) (reader : Reader α)
    (default value : α) : Prop :=
  Says members name reader value ∨ Omits members name ∧ value = default

/-- What an object says of a name. -/
def said? (members : List (String × Json)) (name : String) : Option Entry :=
  match members.filter (·.1 == name) with
  | [] => some .missing
  | [(_, value)] => some (.given value)
  | _ => none

theorem entries?_eq_some_iff {names : List String} {entries : List Entry} :
    entries? names (.object members) = some entries ↔
      names.map (said? members) = entries.map some := by
  rw [show entries? names (.object members) = names.mapM (said? members) from rfl]
  induction names generalizing entries with
  | nil => cases entries <;> simp
  | cons name names ih => cases entries <;> simp [List.mapM_cons, Option.bind_eq_some_iff, ih]

theorem filter_eq_nil_iff : members.filter (·.1 == name) = [] ↔ Omits members name := by
  simp only [List.filter_eq_nil_iff, beq_iff_eq, Omits, ne_eq]

theorem gives_iff {value : Json} :
    Gives members name value ↔ members.filter (·.1 == name) = [(name, value)] := by
  rw [List.filter_eq_cons_iff]
  constructor
  · rintro ⟨before, after, rfl, homits⟩
    rw [Omits, List.forall_mem_append] at homits
    exact ⟨before, after, rfl, by simpa using homits.1, beq_self_eq_true name,
      filter_eq_nil_iff.mpr homits.2⟩
  · rintro ⟨before, after, rfl, hbefore, -, hafter⟩
    refine ⟨before, after, rfl, List.forall_mem_append.mpr ⟨?_, filter_eq_nil_iff.mp hafter⟩⟩
    simpa using hbefore

theorem said?_eq_some_iff {entry : Entry} :
    said? members name = some entry ↔
      (Omits members name ∧ entry = .missing) ∨ ∃ value, Gives members name value ∧
        entry = .given value := by
  simp only [← filter_eq_nil_iff, gives_iff]
  unfold said?
  split
  next hnone => simp [hnone, eq_comm]
  next other value hone =>
    have hname : other = name := by
      have hmem : (other, value) ∈ members.filter (·.1 == name) := hone ▸ List.mem_singleton_self _
      exact beq_iff_eq.mp (List.mem_filter.mp hmem).2
    simp [hone, hname, eq_comm]
  next hnone hone =>
    refine iff_of_false nofun ?_
    rintro (⟨h, -⟩ | ⟨value, h, -⟩)
    · exact hnone h
    · exact hone _ _ h

theorem required_eq_some_iff {reader : Reader α} {value : α} :
    (∃ entry, said? members name = some entry ∧ entry.required reader = some value) ↔
      Says members name reader value := by
  simp only [said?_eq_some_iff, Says]
  constructor
  · rintro ⟨entry, ⟨-, rfl⟩ | ⟨json, hgives, rfl⟩, hread⟩
    · cases hread
    · exact ⟨json, hgives, hread⟩
  · rintro ⟨json, hgives, hread⟩
    exact ⟨.given json, .inr ⟨json, hgives, rfl⟩, hread⟩

theorem withDefault_eq_some_iff {reader : Reader α} {default value : α} :
    (∃ entry, said? members name = some entry ∧
        entry.withDefault reader default = some value) ↔
      SaysOrDefault members name reader default value := by
  simp only [said?_eq_some_iff, SaysOrDefault, Says]
  constructor
  · rintro ⟨entry, ⟨homits, rfl⟩ | ⟨json, hgives, rfl⟩, hread⟩
    · exact .inr ⟨homits, (Option.some.inj hread).symm⟩
    · exact .inl ⟨json, hgives, hread⟩
  · rintro (⟨json, hgives, hread⟩ | ⟨homits, rfl⟩)
    · exact ⟨.given json, .inr ⟨json, hgives, rfl⟩, hread⟩
    · exact ⟨.missing, .inl ⟨homits, rfl⟩, rfl⟩

theorem optionalAnywhere_given {reader : Reader α} {json : Json} (h : json ≠ .null) :
    (Entry.given json).optionalAnywhere reader = (reader json).map some := by
  cases json <;> first | rfl | exact absurd rfl h

theorem optionalAnywhere_eq_some_iff {reader : Reader α} {value : Option α} :
    (∃ entry, said? members name = some entry ∧ entry.optionalAnywhere reader = some value) ↔
      SaysOptional members name reader value := by
  simp only [said?_eq_some_iff]
  constructor
  · rintro ⟨entry, ⟨homits, rfl⟩ | ⟨json, hgives, rfl⟩, hread⟩
    · cases hread
      exact .inr homits
    · by_cases hnull : json = .null
      · subst hnull
        cases hread
        exact .inl hgives
      · rw [optionalAnywhere_given hnull, Option.map_eq_some_iff] at hread
        obtain ⟨present, hread, rfl⟩ := hread
        exact ⟨json, hgives, hnull, hread⟩
  · intro h
    cases value with
    | none =>
      rcases h with hgives | homits
      · exact ⟨.given .null, .inr ⟨.null, hgives, rfl⟩, rfl⟩
      · exact ⟨.missing, .inl ⟨homits, rfl⟩, rfl⟩
    | some present =>
      obtain ⟨json, hgives, hnull, hread⟩ := h
      refine ⟨.given json, .inr ⟨json, hgives, rfl⟩, ?_⟩
      rw [optionalAnywhere_given hnull, hread]
      rfl

end FareSearch.Json
