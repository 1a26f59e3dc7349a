/-!
# Series of items

Items up to a closing mark, with commas between them and perhaps one after the last.
-/

namespace FareSearch.Text

/-- The items up to a closing mark, given what is passed over between them and how one of them is
read. -/
def readSeries {α : Type} (skip : List Char → List Char)
    (item : List Char → Option (α × List Char)) (closing : Char) :
    Nat → List Char → Option (List α × List Char)
  | 0, _ => none
  | fuel + 1, chars =>
    match skip chars with
    | [] => none
    | c :: rest =>
      if c == closing then some ([], rest)
      else
        match item (c :: rest) with
        | none => none
        | some (first, rest) =>
          match skip rest with
          | ',' :: rest =>
            (readSeries skip item closing fuel rest).map fun (more, rest) ↦ (first :: more, rest)
          | c :: rest => if c == closing then some ([first], rest) else none
          | [] => none

end FareSearch.Text
