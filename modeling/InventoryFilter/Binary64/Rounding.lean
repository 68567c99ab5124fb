import InventoryFilter.Binary64.Basic
import InventoryFilter.Decimal.Basic

set_option autoImplicit false

/-!
# Rounding to the nearest number

One rounding rule serves reading and multiplication: the exact quotient goes to the nearest number
of the format, and a quotient in the middle goes to the neighbour with the even last bit.
-/

namespace InventoryFilter.Binary64

/-- The quotient rounded to the nearest whole number, a half to the even neighbour. -/
def roundDiv (num den : Nat) : Nat :=
  let q := num / den
  let r := num % den
  if 2 * r < den then q
  else if den < 2 * r then q + 1
  else if q % 2 = 0 then q else q + 1

theorem roundDiv_mul_left (q : Nat) {den : Nat} (h : 0 < den) : roundDiv (q * den) den = q := by
  simp [roundDiv, Nat.mul_div_cancel _ h, h]

/-- Rounding leaves the quotient by at most one half. -/
theorem roundDiv_near (num : Nat) {den : Nat} (h : 0 < den) :
    2 * num ≤ (2 * roundDiv num den + 1) * den ∧
      2 * roundDiv num den * den ≤ 2 * num + den := by
  have hdiv := Nat.div_add_mod num den
  have hlt := Nat.mod_lt num h
  unfold roundDiv
  simp only
  generalize num / den = q at *
  generalize num % den = r at *
  subst hdiv
  have e1 : (2 * q + 1) * den = 2 * (den * q) + den := by
    rw [Nat.add_mul, Nat.mul_assoc, Nat.mul_comm q den, Nat.one_mul]
  have e2 : 2 * q * den = 2 * (den * q) := by rw [Nat.mul_assoc, Nat.mul_comm q den]
  have e3 : (2 * (q + 1) + 1) * den = 2 * (den * q) + 3 * den := by
    rw [show 2 * (q + 1) + 1 = 2 * q + 3 from rfl, Nat.add_mul, e2]
  have e4 : 2 * (q + 1) * den = 2 * (den * q) + 2 * den := by
    rw [show 2 * (q + 1) = 2 * q + 2 from rfl, Nat.add_mul, e2]
  split
  · rw [e1, e2]; omega
  · split
    · rw [e3, e4]; omega
    · split
      · rw [e1, e2]; omega
      · rw [e3, e4]; omega

/-- The rank of the magnitude nearest to the quotient.  From the rank up to which the numbers are
evenly spaced on, each doubling of the quotient doubles the spacing. -/
def nearestRank (num den : Nat) : Nat :=
  let scaled := num * unitsPerOne
  let spacing := (scaled / den).log2 - 52
  spacing * Nat.pow 2 52 + roundDiv scaled (den * Nat.pow 2 spacing)

/-- The number nearest to a quotient; a quotient beyond all of them becomes infinite. -/
def ofRatio (negative : Bool) (num den : Nat) : Binary64 :=
  let rank := nearestRank num den
  if h : rank < 2047 * Nat.pow 2 52 then finite negative ⟨rank, h⟩ else infinite negative

/-- The number nearest to a decimal. -/
def ofDecimal (d : Decimal) : Binary64 := ofRatio d.negative d.ratio.1 d.ratio.2

/-- The rounded product. -/
def mul : Binary64 → Binary64 → Binary64
  | finite n r, finite n' r' =>
    ofRatio (n != n') (units r * units r') (unitsPerOne * unitsPerOne)
  | finite n r, infinite n' | infinite n', finite n r =>
    if r.val = 0 then nan else infinite (n != n')
  | infinite n, infinite n' => infinite (n != n')
  | nan, _ | _, nan => nan

/-- The power of two with the given exponent. -/
def twoPow (exponent : Int) : Binary64 :=
  ofRatio false (Nat.pow 2 exponent.toNat) (Nat.pow 2 (-exponent).toNat)

end InventoryFilter.Binary64
