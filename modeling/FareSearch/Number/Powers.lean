/-!
# Powers of two and ten

The powers that bounds, significands and decimal places are counted in.
-/

namespace FareSearch.Number

def twoPow (exponent : Nat) : Nat :=
  Nat.pow 2 exponent

def tenPow (exponent : Nat) : Nat :=
  Nat.pow 10 exponent

end FareSearch.Number
