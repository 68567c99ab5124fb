import InventoryFilter.Columns.Basic
import InventoryFilter.Expr.Basic

set_option autoImplicit false

/-!
# Expressions as SQL predicates

Comparisons become SQL comparisons in brackets, and pattern matches become calls.  An identifier
without a column becomes a quoted name in which spaces stand for underscores.
-/

namespace InventoryFilter.Expr

variable [Pattern.Validator]

/-- A text as an SQL string constant: a quote inside it is doubled. -/
def sqlString (s : String) : String :=
  "'" ++ String.ofList (s.toList.flatMap fun c => if c = '\'' then ['\'', '\''] else [c]) ++ "'"

/-- The quoted name that stands for an identifier without a column. -/
def sqlName (name : String) : String :=
  "\"" ++ String.ofList (name.toList.map fun c => if c = '_' then ' ' else c) ++ "\""

/-- An operator between two SQL expressions. -/
def sqlBinary (left : String) (op : Operator) (right : String) : String :=
  match op.sql? with
  | some sql => "(" ++ left ++ " " ++ sql ++ " " ++ right ++ ")"
  | none =>
    (if op = .notLike then "NOT " else "") ++ "regexp_matches(" ++ left ++ ", " ++ right ++ ")"

omit [Pattern.Validator] in
/-- The SQL of an operator has fixed texts around those of its sides. -/
theorem exists_sqlBinary_eq (op : Operator) : ∃ front middle back : String, ∀ left right,
    sqlBinary left op right = front ++ left ++ middle ++ right ++ back := by
  cases hsql : op.sql? with
  | some sql =>
    refine ⟨"(", " " ++ sql ++ " ", ")", fun left right => ?_⟩
    simp only [sqlBinary, hsql, String.append_assoc]
  | none =>
    refine ⟨(if op = .notLike then "NOT " else "") ++ "regexp_matches(", ", ", ")",
      fun left right => ?_⟩
    simp only [sqlBinary, hsql]

/-- The expression as an SQL predicate. -/
def sql (columns : ColumnMap) : Expr → String
  | binary l op r => sqlBinary (l.sql columns) op (r.sql columns)
  | string s => sqlString s
  | identifier name => (columns.resolve? name).getD (sqlName name)
  | boolean b => if b then "TRUE" else "FALSE"
  | pattern p => sqlString p.text
  | quantity q => q.sql

/-- The identifiers of the expression that have no column, from left to right. -/
def unresolved (columns : ColumnMap) (e : Expr) : List String :=
  e.identifiers.filter fun name => (columns.resolve? name).isNone

end InventoryFilter.Expr
