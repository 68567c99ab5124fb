set_option autoImplicit false

/-!
# Decimal numbers

A decimal number is a sign, a whole number of digits and a power of ten.  The same number has many
such forms: `8` and `80` tenths are different decimals of equal value.
-/

namespace InventoryFilter

/-- The number `digits * 10 ^ exponent` with a sign.  Zero may be negative. -/
structure Decimal where
  negative : Bool
  digits : Nat
  exponent : Int
  deriving DecidableEq, Repr, Inhabited

namespace Decimal

/-- The whole number that a run of decimal digits spells. -/
def ofDigits (cs : List Char) : Nat := Nat.ofDigitChars 10 cs 0

/-- The digits before and after a decimal point as one decimal. -/
def ofParts (negative : Bool) (whole fraction : List Char) : Decimal :=
  ⟨negative, ofDigits (whole ++ fraction), -(fraction.length : Int)⟩

/-- The magnitude as a quotient of whole numbers. -/
def ratio (d : Decimal) : Nat × Nat :=
  if 0 ≤ d.exponent then (d.digits * Nat.pow 10 d.exponent.toNat, 1)
  else (d.digits, Nat.pow 10 (-d.exponent).toNat)

theorem ratio_snd_pos (d : Decimal) : 0 < d.ratio.2 := by
  unfold ratio
  split
  · exact Nat.one_pos
  · exact Nat.pow_pos (by decide)

end Decimal

end InventoryFilter
