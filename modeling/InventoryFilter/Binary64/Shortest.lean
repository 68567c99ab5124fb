import InventoryFilter.Binary64.Rounding

set_option autoImplicit false

/-!
# The shortest decimal of a number

Of all decimals that read back as the same number, the one with the fewest digits stands for it,
and of several with equally few digits the nearest.  A grid of decimals with a given last place has
at most two points next to the number, so testing these two on grids of one, two, … seventeen
digits finds it.
-/

namespace InventoryFilter.Binary64

/-- Which of two decimals at the same distance from a number stands for it. -/
inductive Tie
  | toEven
  | upward
  deriving DecidableEq, Repr, Inhabited

/-- By how many places a quotient below one has to move left to reach one. -/
def placesBelowOne : Nat → Nat → Nat → Nat
  | 0, _, _ => 0
  | fuel + 1, num, den => if den ≤ num then 0 else placesBelowOne fuel (num * 10) den + 1

/-- The power of ten of the leading digit of a positive quotient.  No positive number of the format
is as small as `10 ^ (-400)`. -/
def leadingPlace (num den : Nat) : Int :=
  if den ≤ num then (Nat.toDigits 10 (num / den)).length - 1
  else -(placesBelowOne 400 num den : Int)

/-- The decimal of the grid with the given last place that stands for the magnitude of the rank,
if one of the two next to it reads back. -/
def onGrid? (tie : Tie) (rank : Fin (2047 * Nat.pow 2 52)) (place : Int) : Option Decimal :=
  let num := units rank * Nat.pow 10 (-place).toNat
  let den := unitsPerOne * Nat.pow 10 place.toNat
  let below : Decimal := ⟨false, num / den, place⟩
  let above : Decimal := ⟨false, num / den + 1, place⟩
  let reads (d : Decimal) : Bool := ofDecimal d == finite false rank
  let remainder := num % den
  let preferBelow := 2 * remainder < den ||
    (2 * remainder == den && tie == .toEven && num / den % 2 == 0)
  if preferBelow then if reads below then some below else if reads above then some above else none
  else if reads above then some above else if reads below then some below else none

/-- The digits without their trailing zeros. -/
def dropZeros : Nat → Decimal → Decimal
  | 0, d => d
  | fuel + 1, d =>
    if d.digits % 10 = 0 then dropZeros fuel ⟨d.negative, d.digits / 10, d.exponent + 1⟩ else d

/-- The shortest decimal that reads back as the magnitude of a rank. -/
def shortestOfRank (tie : Tie) (rank : Fin (2047 * Nat.pow 2 52)) : Decimal :=
  if rank.val = 0 then ⟨false, 0, 0⟩
  else
    let lead := leadingPlace (units rank) unitsPerOne
    match (List.range 17).findSome? fun (n : Nat) => onGrid? tie rank (lead - n) with
    | some d => dropZeros 18 d
    | none => ⟨false, units rank * Nat.pow 5 1074, -1074⟩

/-- The shortest decimal that reads back as the number, unless the number is not finite. -/
def shortest? (tie : Tie) : Binary64 → Option Decimal
  | finite negative rank =>
    let d := shortestOfRank tie rank
    some ⟨negative, d.digits, d.exponent⟩
  | _ => none

end InventoryFilter.Binary64
