import InventoryFilter.Binary64.Rounding
import InventoryFilter.Text.AsciiCase

set_option autoImplicit false

/-!
# Storage units

Amounts of storage are compared in megabytes.  A number without a unit is taken as it stands.
-/

namespace InventoryFilter

/-- The unit of a quantity. -/
inductive StorageUnit
  | none
  | kilobyte
  | megabyte
  | gigabyte
  | terabyte
  deriving DecidableEq, Repr, Inhabited

namespace StorageUnit

/-- The usual spelling of the unit. -/
def suffix : StorageUnit → String
  | none => ""
  | kilobyte => "Kb"
  | megabyte => "Mb"
  | gigabyte => "Gb"
  | terabyte => "Tb"

/-- The name of the unit in data and logs. -/
def name : StorageUnit → String
  | none => "None"
  | unit => unit.suffix

/-- All units. -/
def all : List StorageUnit := [none, kilobyte, megabyte, gigabyte, terabyte]

/-- The unit with the given name. -/
def ofName? (name : String) : Option StorageUnit := all.find? (·.name == name)

/-- The units that have a spelling. -/
def named : List StorageUnit := [kilobyte, megabyte, gigabyte, terabyte]

/-- The unit with the given spelling in any ASCII case. -/
def ofSuffix? (text : List Char) : Option StorageUnit :=
  named.find? fun unit => Text.sameIgnoringCase unit.suffix.toList text

/-- The power of two by which an amount in the unit is multiplied to give megabytes. -/
def exponent : StorageUnit → Int
  | none => 0
  | kilobyte => -10
  | megabyte => 0
  | gigabyte => 10
  | terabyte => 20

/-- The number by which an amount in the unit is multiplied to give megabytes. -/
def factor (unit : StorageUnit) : Binary64 := .twoPow unit.exponent

theorem ofSuffix?_nil : ofSuffix? [] = Option.none := by decide

theorem ofSuffix?_suffix (unit : StorageUnit) (h : unit ≠ none) :
    ofSuffix? unit.suffix.toList = some unit := by
  cases unit with
  | none => exact absurd rfl h
  | kilobyte => decide
  | megabyte => decide
  | gigabyte => decide
  | terabyte => decide

theorem ofName?_name (unit : StorageUnit) : ofName? unit.name = some unit := by
  cases unit <;> rfl

end StorageUnit

end InventoryFilter
