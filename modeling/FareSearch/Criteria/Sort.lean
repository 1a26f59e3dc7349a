import FareSearch.Json.Record
import FareSearch.Text.Blank
import FareSearch.Text.Lowercase

/-!
# Sort options

The field and the direction in which a result is ordered. Reading them from a user is lenient: an
unknown field is the best value, an unknown direction is ascending.
-/

namespace FareSearch

inductive SortField where
  | price
  | duration
  | departure
  | arrival
  | bestValue
  deriving DecidableEq, Inhabited

inductive SortOrder where
  | ascending
  | descending
  deriving DecidableEq, Inhabited

structure SortSpec where
  field : SortField := .bestValue
  order : SortOrder := .ascending
  deriving DecidableEq

instance : Inhabited SortSpec :=
  ⟨{}⟩

namespace SortField

def name : SortField → String
  | .price => "price"
  | .duration => "duration"
  | .departure => "departure"
  | .arrival => "arrival"
  | .bestValue => "best_value"

def all : List SortField :=
  [.price, .duration, .departure, .arrival, .bestValue]

/-- The field of a name in any case, and the best value for every other text. -/
def ofText (text : String) : SortField :=
  let wanted := Text.asciiLower (Text.trim text)
  (all.find? fun field ↦ field.name == wanted).getD .bestValue

end SortField

namespace SortOrder

def name : SortOrder → String
  | .ascending => "asc"
  | .descending => "desc"

def all : List SortOrder :=
  [.ascending, .descending]

/-- Descending for its name in any case, and ascending for every other text. -/
def ofText (text : String) : SortOrder :=
  if Text.sameIgnoringAsciiCase (Text.trim text) "desc" then .descending else .ascending

end SortOrder

namespace SortSpec

def ofText (field order : String) : SortSpec :=
  ⟨.ofText field, .ofText order⟩

def toJson (spec : SortSpec) : Json :=
  .object [("field", .string spec.field.name), ("order", .string spec.order.name)]

def fieldOfJson? : Json.Reader SortField :=
  Json.choice? (SortField.all.map fun field ↦ (field.name, field))

def orderOfJson? : Json.Reader SortOrder :=
  Json.choice? (SortOrder.all.map fun order ↦ (order.name, order))

def ofJson? (json : Json) : Option SortSpec := do
  match ← Json.entries? ["field", "order"] json with
  | [field, order] => return ⟨← field.required fieldOfJson?, ← order.required orderOfJson?⟩
  | _ => none

end SortSpec

end FareSearch
