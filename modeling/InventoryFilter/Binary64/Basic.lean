set_option autoImplicit false

/-!
# Binary floating point numbers of 64 bits

The finite magnitudes are numbered upward from zero, so that a magnitude is a rank below
`2047 * 2 ^ 52` and the next number has the next rank.  Every finite magnitude is a whole multiple
of the least positive one, `2 ^ (-1074)`; `units` says which.  All arithmetic on these numbers is
exact arithmetic on natural numbers, followed by one rounding.
-/

namespace InventoryFilter

/-- A number of the IEEE 754 format binary64.  All NaNs are one value. -/
inductive Binary64
  | finite (negative : Bool) (rank : Fin (2047 * Nat.pow 2 52))
  | infinite (negative : Bool)
  | nan
  deriving DecidableEq, Repr

namespace Binary64

instance : Inhabited Binary64 := ⟨.nan⟩

/-- How many of the least positive number make up the magnitude of the given rank: the first
`2 ^ 52` ranks are evenly spaced, and every further `2 ^ 52` double the spacing. -/
def units (rank : Nat) : Nat :=
  if rank < Nat.pow 2 52 then rank
  else (Nat.pow 2 52 + rank % Nat.pow 2 52) * Nat.pow 2 (rank / Nat.pow 2 52 - 1)

/-- How many of the least positive number make up one. -/
def unitsPerOne : Nat := Nat.pow 2 1074

/-- Whether the number is neither infinite nor a NaN. -/
def isFinite : Binary64 → Bool
  | finite _ _ => true
  | _ => false

/-- Equality of numbers: the two zeros are equal, and a NaN equals nothing. -/
def sameNumber : Binary64 → Binary64 → Bool
  | finite n r, finite n' r' => r == r' && (n == n' || r.val == 0)
  | infinite n, infinite n' => n == n'
  | _, _ => false

/-! ## Bit patterns -/

/-- The 64 bits of the number, with the sign uppermost. -/
def toBits : Binary64 → Nat
  | finite negative rank => (if negative then Nat.pow 2 63 else 0) + rank.val
  | infinite negative => (if negative then Nat.pow 2 63 else 0) + 2047 * Nat.pow 2 52
  | nan => 2047 * Nat.pow 2 52 + Nat.pow 2 51

/-- The number with the given 64 bits. -/
def ofBits (bits : Nat) : Binary64 :=
  let negative := bits / Nat.pow 2 63 % 2 == 1
  let magnitude := bits % Nat.pow 2 63
  if h : magnitude < 2047 * Nat.pow 2 52 then finite negative ⟨magnitude, h⟩
  else if magnitude = 2047 * Nat.pow 2 52 then infinite negative
  else nan

theorem ofBits_toBits (x : Binary64) : ofBits x.toBits = x := by
  cases x with
  | finite negative rank =>
    obtain ⟨r, hr⟩ := rank
    have hr' : r < 9218868437227405312 := hr
    cases negative
    · have h1 : r % 9223372036854775808 = r := Nat.mod_eq_of_lt (by omega)
      have h2 : r / 9223372036854775808 % 2 = 0 := by omega
      simp [ofBits, toBits, Nat.pow_eq, h1, h2, hr']
    · have h1 : (9223372036854775808 + r) % 9223372036854775808 = r := by omega
      have h2 : (r / 9223372036854775808 + 1) % 2 = 1 := by omega
      simp [ofBits, toBits, Nat.pow_eq, h1, h2, hr']
  | infinite negative => cases negative <;> decide
  | nan => decide

end Binary64

end InventoryFilter
