import InventoryFilter.Binary64.Shortest
import InventoryFilter.Decimal.Layout
import InventoryFilter.Expr.Basic
import InventoryFilter.Text.Quoted

set_option autoImplicit false

/-!
# Expressions in logs

The outline of an expression names every part of the tree, and shows texts quoted and numbers with
all their digits.
-/

namespace InventoryFilter.Expr

variable [Pattern.Validator]

/-- Numbers in logs have an exponent below `10 ^ (-4)` and from `10 ^ 16` on, without a plus. -/
def outlineLayout : Decimal.Layout := ⟨-4, 16, false⟩

/-- A number in a log.  Of two shortest decimals at the same distance the greater is shown. -/
def outlineNumber (x : Binary64) : String :=
  match x.shortest? .upward with
  | some d => d.text outlineLayout
  | none => x.fixed 0

/-- The tree of the expression in words. -/
def outline : Expr → String
  | binary l op r =>
    "Binary \x7b left: " ++ l.outline ++ ", op: " ++ op.label ++ ", right: " ++ r.outline ++ " \x7d"
  | string s => "String(" ++ Text.quoted s ++ ")"
  | identifier name => "Var(" ++ Text.quoted name ++ ")"
  | boolean b => "Boolean(" ++ (if b then "true" else "false") ++ ")"
  | pattern p => "Regex(RegexLiteral \x7b pattern: " ++ Text.quoted p.text ++ " \x7d)"
  | quantity q =>
    "Quantity(Quantity \x7b value: " ++ outlineNumber q.value ++ ", unit: " ++
      q.unit.name ++ " \x7d)"

end InventoryFilter.Expr
