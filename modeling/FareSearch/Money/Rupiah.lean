import FareSearch.Money.Amount

/-!
# Rupiah for display

Whole rupiah, rounded to the even neighbour at a half, with a point between groups of three
digits.
-/

namespace FareSearch.Rupiah

/-- Puts a point before every digit that begins a full group of three. -/
def grouped : List Char → List Char
  | [] => []
  | [digit] => [digit]
  | digit :: rest =>
    if rest.length % 3 = 0 then digit :: '.' :: grouped rest else digit :: grouped rest

/-- An amount as rupiah; the minus sign is left out where nothing but zero remains. -/
def text (amount : Amount) : String :=
  let rounded := amount.roundedMagnitude
  let digits := String.ofList (grouped (Nat.toDigits 10 rounded))
  if amount.negative && rounded ≠ 0 then "-Rp. " ++ digits else "Rp. " ++ digits

end FareSearch.Rupiah
