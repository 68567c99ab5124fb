import InventoryFilter.Expr.Operator
import InventoryFilter.Pattern.Basic
import InventoryFilter.Quantity.Basic

set_option autoImplicit false

/-!
# Expressions

An expression is what a filter says: operators between texts, names of columns, truth values,
patterns and quantities.
-/

namespace InventoryFilter

variable [Pattern.Validator]

/-- A filter expression. -/
inductive Expr
  | binary (left : Expr) (op : Operator) (right : Expr)
  | string (value : String)
  | identifier (name : String)
  | boolean (value : Bool)
  | pattern (value : Pattern)
  | quantity (value : Quantity)
  deriving DecidableEq, Repr

namespace Expr

instance : Inhabited Expr := ⟨boolean true⟩

/-- Whether two expressions are built alike from leaves that say the same.  Numbers are compared
as numbers, so a quantity without a number agrees with none, not even with itself. -/
def agrees : Expr → Expr → Bool
  | binary l op r, binary l' op' r' => op == op' && l.agrees l' && r.agrees r'
  | string s, string s' => s == s'
  | identifier n, identifier n' => n == n'
  | boolean b, boolean b' => b == b'
  | pattern p, pattern p' => p == p'
  | quantity q, quantity q' => q.agrees q'
  | _, _ => false

/-- The names of columns in the expression, from left to right and with repetitions. -/
def identifiers : Expr → List String
  | binary l _ r => l.identifiers ++ r.identifiers
  | identifier name => [name]
  | _ => []

end Expr

end InventoryFilter
