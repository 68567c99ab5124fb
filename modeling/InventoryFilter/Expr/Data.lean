import InventoryFilter.Binary64.Shortest
import InventoryFilter.Expr.Basic
import InventoryFilter.Json.Printer
import InventoryFilter.Json.Reader

set_option autoImplicit false

/-!
# Expressions as data

The tree of an expression as a JSON value.  Each node is an object with one field, which names the
kind of the node.
-/

namespace InventoryFilter.Expr

variable [Pattern.Validator]

/-- A number as a JSON value: the shortest decimal that reads back, of two at the same distance the
even one.  What is not finite has no decimal. -/
def numberData (x : Binary64) : Json :=
  match x.shortest? .toEven with
  | some d => .number d
  | none => .null

/-- The expression as a JSON value. -/
def toData : Expr → Json
  | binary l op r =>
    .object [("binary",
      .object [("left", l.toData), ("op", .string op.name), ("right", r.toData)])]
  | string s => .object [("string", .string s)]
  | identifier name => .object [("var", .string name)]
  | boolean b => .object [("boolean", .boolean b)]
  | pattern p => .object [("regex", .string p.text)]
  | quantity q =>
    .object [("quantity",
      .object [("value", numberData q.value), ("unit", .string q.unit.name)])]

/-- The expression that a JSON value stands for. -/
def ofData? : Json → Option Expr
  | .object [("binary", .object [("left", l), ("op", .string op), ("right", r)])] => do
    let l ← ofData? l
    let op ← Operator.ofName? op
    let r ← ofData? r
    some (binary l op r)
  | .object [("string", .string s)] => some (string s)
  | .object [("var", .string name)] => some (identifier name)
  | .object [("boolean", .boolean b)] => some (boolean b)
  | .object [("regex", .string text)] => (Pattern.ofText text).toOption.map pattern
  | .object [("quantity", .object [("value", .number d), ("unit", .string unit)])] => do
    let unit ← StorageUnit.ofName? unit
    some (quantity ⟨.ofDecimal d, unit⟩)
  | _ => none

end InventoryFilter.Expr
