import InventoryFilter.Event
import InventoryFilter.Expr.Parser
import InventoryFilter.Expr.Sql

set_option autoImplicit false

/-!
# Compiling filters

A filter is read and rendered as an SQL predicate, and what happens on the way is reported.
-/

namespace InventoryFilter

variable [Pattern.Validator]

/-- The expression as an SQL predicate, with a report of each identifier that is met on the way and
has no column.  The left side of an operator is rendered before its right side. -/
def Expr.render (columns : ColumnMap) : Expr → String × List Event
  | binary l op r =>
    let left := l.render columns
    let right := r.render columns
    (sqlBinary left.1 op right.1, left.2 ++ right.2)
  | identifier name =>
    ((identifier name).sql columns,
      if (columns.resolve? name).isNone then [.unmapped name] else [])
  | e => (e.sql columns, [])

/-- Rendering gives the SQL predicate, and reports the identifiers without a column from left to
right. -/
theorem Expr.render_eq (columns : ColumnMap) (e : Expr) :
    e.render columns = (e.sql columns, (e.unresolved columns).map .unmapped) := by
  induction e with
  | binary l op r ihl ihr => simp [render, sql, ihl, ihr, unresolved, identifiers]
  | identifier name =>
    cases hcolumn : columns.resolve? name <;>
      simp [render, unresolved, identifiers, hcolumn]
  | string s => rfl
  | boolean b => rfl
  | pattern p => rfl
  | quantity q => rfl

/-- The result of compiling a filter, and the events on the way. -/
structure Compilation where
  result : Except Rejection String
  events : List Event

/-- Compiles a filter and reports on it: first that it begins, then each identifier without a
column, and last how it ended. -/
def compileReporting (input : String) (columns : ColumnMap) : Compilation :=
  let start := Event.compiling input columns.size
  match parse input with
  | .error rejection => ⟨.error rejection, [start, .rejected rejection]⟩
  | .ok e =>
    let rendering := e.render columns
    ⟨.ok rendering.1, start :: rendering.2 ++ [.compiled rendering.1]⟩

/-- The SQL predicate of a filter. -/
def compile (input : String) (columns : ColumnMap) : Except Rejection String :=
  (compileReporting input columns).result

/-- Compiling is reading and rendering. -/
theorem compile_eq (input : String) (columns : ColumnMap) :
    compile input columns = (parse input).map (·.sql columns) := by
  unfold compile compileReporting
  cases parse input with
  | error rejection => rfl
  | ok e => simp only [e.render_eq columns]; rfl

end InventoryFilter
