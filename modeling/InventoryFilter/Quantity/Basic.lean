import InventoryFilter.Binary64.Fixed
import InventoryFilter.Quantity.StorageUnit

set_option autoImplicit false

/-!
# Quantities

A quantity is a number with a unit of storage.  It is shown with the unit it was given in, and
compared in megabytes.
-/

namespace InventoryFilter

/-- A number with a unit. -/
structure Quantity where
  value : Binary64
  unit : StorageUnit
  deriving DecidableEq, Repr, Inhabited

namespace Quantity

/-- How many decimal places a quantity is written with. -/
def places : Nat := 2

/-- The amount in megabytes. -/
def baseline (q : Quantity) : Binary64 := q.value.mul q.unit.factor

/-- The amount in megabytes as an SQL number. -/
def sql (q : Quantity) : String := q.baseline.fixed places

/-- The quantity as a filter writes it. -/
def text (q : Quantity) : String := q.value.fixed places ++ q.unit.suffix

/-- Whether two quantities have the same unit and the same number. -/
def agrees (q r : Quantity) : Bool := q.value.sameNumber r.value && q.unit == r.unit

end Quantity

end InventoryFilter
