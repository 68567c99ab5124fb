import InventoryFilter.Token.Kind

set_option autoImplicit false

/-!
# Operators

The ten operators of filters.  Comparisons bind tighter than `and`, which binds tighter than `or`,
and each binds to the left.
-/

namespace InventoryFilter

/-- An operator between two expressions. -/
inductive Operator
  | equal
  | notEqual
  | less
  | lessEqual
  | greater
  | greaterEqual
  | like
  | notLike
  | and
  | or
  deriving DecidableEq, Repr, Inhabited

namespace Operator

/-- All operators. -/
def all : List Operator :=
  [equal, notEqual, less, lessEqual, greater, greaterEqual, like, notLike, and, or]

/-- The kind of the token that stands for the operator. -/
def kind : Operator → TokenKind
  | equal => .equal
  | notEqual => .notEqual
  | less => .less
  | lessEqual => .lessEqual
  | greater => .greater
  | greaterEqual => .greaterEqual
  | like => .like
  | notLike => .notLike
  | and => .and
  | or => .or

/-- The operator as a filter writes it. -/
def spelling (op : Operator) : String := op.kind.name

/-- The SQL operator of the same meaning, if there is one. -/
def sql? (op : Operator) : Option String := op.kind.sql?

/-- The name of the operator in data. -/
def name : Operator → String
  | equal => "eq"
  | notEqual => "not_eq"
  | less => "lt"
  | lessEqual => "lt_eq"
  | greater => "gt"
  | greaterEqual => "gt_eq"
  | like => "like"
  | notLike => "not_like"
  | and => "and"
  | or => "or"

/-- The name of the operator in logs. -/
def label : Operator → String
  | equal => "Eq"
  | notEqual => "NotEq"
  | less => "Lt"
  | lessEqual => "LtEq"
  | greater => "Gt"
  | greaterEqual => "GtEq"
  | like => "Like"
  | notLike => "NotLike"
  | and => "And"
  | or => "Or"

/-- The operator with the given name in data. -/
def ofName? (name : String) : Option Operator := all.find? (·.name == name)

/-- How tightly the operator holds the expression on its left. -/
def leftPower : Operator → Nat
  | or => 1
  | and => 3
  | _ => 5

/-- How tightly the operator holds the expression on its right: more than on its left, so that
operators of the same strength group to the left. -/
def rightPower (op : Operator) : Nat := op.leftPower + 1

/-- The operator that a token of the kind stands for. -/
def ofKind? (kind : TokenKind) : Option Operator := all.find? (·.kind == kind)

theorem ofKind?_kind (op : Operator) : ofKind? op.kind = some op := by
  cases op <;> rfl

theorem kind_of_ofKind? {kind : TokenKind} {op : Operator} (h : ofKind? kind = some op) :
    op.kind = kind := by
  simpa using List.find?_some h

theorem ofName?_name (op : Operator) : ofName? op.name = some op := by
  cases op <;> rfl

end Operator

end InventoryFilter
