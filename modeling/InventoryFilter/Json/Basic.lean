import InventoryFilter.Decimal.Basic

set_option autoImplicit false

/-!
# JSON values

The fields of an object keep their order, and numbers are decimals as they are spelled.
-/

namespace InventoryFilter

/-- A JSON value. -/
inductive Json
  | null
  | boolean (value : Bool)
  | number (value : Decimal)
  | string (value : String)
  | array (items : List Json)
  | object (fields : List (String × Json))
  deriving Repr, Inhabited

end InventoryFilter
