import InventoryFilter.Decimal.Basic

set_option autoImplicit false

/-!
# Decimal numbers as text

A decimal is written positionally while its leading digit stands near the point, and with an
exponent otherwise.  Where the border lies and how the exponent is signed is up to the format that
holds the number, and is given by a `Layout`.
-/

namespace InventoryFilter.Decimal

/-- The decisions of a format about its numbers.  The place of a digit is its power of ten. -/
structure Layout where
  /-- The least place of a leading digit that is written positionally. -/
  plainFrom : Int
  /-- The places from this one on are written with an exponent. -/
  plainBelow : Int
  /-- Whether an exponent that is not negative carries a plus sign. -/
  signedExponent : Bool
  deriving DecidableEq, Repr, Inhabited

/-- The digits with the point set after the given place, and at least one digit on each side. -/
def positional (digits : List Char) (place : Int) : List Char :=
  if place < 0 then '0' :: '.' :: List.replicate (-place - 1).toNat '0' ++ digits
  else
    let whole := place.toNat + 1
    if digits.length ≤ whole then
      digits ++ List.replicate (whole - digits.length) '0' ++ ['.', '0']
    else digits.take whole ++ '.' :: digits.drop whole

/-- The power of ten of an exponent form. -/
def exponentMark (layout : Layout) (place : Int) : List Char :=
  let sign := if place < 0 then ['-'] else if layout.signedExponent then ['+'] else []
  'e' :: sign ++ Nat.toDigits 10 place.natAbs

/-- The digits with a point after the first, if there are more, and a power of ten. -/
def scientific (layout : Layout) (digits : List Char) (place : Int) : List Char :=
  match digits with
  | [] => []
  | [first] => first :: exponentMark layout place
  | first :: more => first :: '.' :: more ++ exponentMark layout place

/-- The text of the magnitude. -/
def magnitudeText (layout : Layout) (d : Decimal) : List Char :=
  if d.digits = 0 then ['0', '.', '0']
  else
    let digits := Nat.toDigits 10 d.digits
    let place := d.exponent + digits.length - 1
    if layout.plainFrom ≤ place ∧ place < layout.plainBelow then positional digits place
    else scientific layout digits place

/-- The text of the number. -/
def text (layout : Layout) (d : Decimal) : String :=
  String.ofList ((if d.negative then ['-'] else []) ++ d.magnitudeText layout)

end InventoryFilter.Decimal
