import InventoryFilter.Binary64.Rounding

set_option autoImplicit false

/-!
# Numbers with a fixed count of decimal places

The exact value of the number is rounded once, and all digits before the point are written out.
-/

namespace InventoryFilter.Binary64

/-- The magnitude of the given rank in units of the last of so many decimal places, a half to the
even neighbour. -/
def scaledRank (places rank : Nat) : Nat := roundDiv (units rank * Nat.pow 10 places) unitsPerOne

/-- A whole number of units of the last place as text, with that many digits after the point. -/
def fixedDigits (places n : Nat) : List Char :=
  let fraction := Nat.toDigits 10 (n % Nat.pow 10 places)
  Nat.toDigits 10 (n / Nat.pow 10 places) ++
    '.' :: List.replicate (places - fraction.length) '0' ++ fraction

/-- The number with the given count of decimal places.  A negative number keeps its sign when it
rounds to zero. -/
def fixed (places : Nat) : Binary64 → String
  | finite negative rank =>
    String.ofList ((if negative then ['-'] else []) ++ fixedDigits places (scaledRank places rank))
  | infinite negative => if negative then "-inf" else "inf"
  | nan => "NaN"

end InventoryFilter.Binary64
