import InventoryFilter.Quantity.Basic

set_option autoImplicit false

/-!
# Reading quantities

A quantity is spelled as an optional sign, digits with at most one point among them, and an
optional unit.  It is refused if it is not spelled so, or if it is too large for the format of
numbers, before or after the conversion to megabytes.
-/

namespace InventoryFilter

/-- Why a text is not a quantity. -/
inductive QuantityFault
  /-- the text is not spelled as a quantity -/
  | malformed (text : String)
  /-- the number, or the number of megabytes, is too large -/
  | outOfRange (text : String)
  deriving DecidableEq, Repr, Inhabited

/-- What is said about the fault. -/
def QuantityFault.message : QuantityFault → String
  | malformed text => "invalid quantity '" ++ text ++ "'"
  | outOfRange text => "quantity '" ++ text ++ "' is out of range"

namespace Quantity

/-- The digits of a number without a sign: some before or after the point, which may be missing. -/
def readMagnitude? (negative : Bool) (cs : List Char) : Option Decimal :=
  let whole := cs.takeWhile Char.isDigit
  match cs.dropWhile Char.isDigit with
  | [] => if whole.isEmpty then none else some (.ofParts negative whole [])
  | c :: fraction =>
    if c = '.' ∧ fraction.all Char.isDigit ∧ ¬(whole.isEmpty ∧ fraction.isEmpty) then
      some (.ofParts negative whole fraction)
    else none

/-- A number with an optional sign. -/
def readNumber? : List Char → Option Decimal
  | '+' :: cs => readMagnitude? false cs
  | '-' :: cs => readMagnitude? true cs
  | cs => readMagnitude? false cs

/-- The unit that a suffix names; no suffix names no unit. -/
def readUnit? (suffix : List Char) : Option StorageUnit :=
  if suffix.isEmpty then some .none else StorageUnit.ofSuffix? suffix

/-- The quantity that a text spells.  The unit begins at the first ASCII letter. -/
def ofText (text : String) : Except QuantityFault Quantity :=
  let cs := text.toList
  match readUnit? (cs.dropWhile (!·.isAlpha)), readNumber? (cs.takeWhile (!·.isAlpha)) with
  | some unit, some number =>
    let q : Quantity := ⟨.ofDecimal number, unit⟩
    if q.value.isFinite && q.baseline.isFinite then .ok q else .error (.outOfRange text)
  | _, _ => .error (.malformed text)

end Quantity

end InventoryFilter
