import InventoryFilter.Expr.Basic

set_option autoImplicit false

/-!
# Expressions as filter text

Every operator is put in brackets, so the text does not depend on how tightly operators bind.
-/

namespace InventoryFilter.Expr

variable [Pattern.Validator]

/-- A text between quotes of the kind that it does not hold, as long as there is one. -/
def quoteText (s : String) : String :=
  if s.toList.contains '\'' then "\"" ++ s ++ "\"" else "'" ++ s ++ "'"

/-- A pattern between slashes, with a backslash before each slash that it holds. -/
def slashPattern (s : String) : String :=
  "/" ++ String.ofList (s.toList.flatMap fun c => if c = '/' then ['\\', '/'] else [c]) ++ "/"

/-- The expression as a filter. -/
def display : Expr → String
  | binary l op r => "(" ++ l.display ++ " " ++ op.spelling ++ " " ++ r.display ++ ")"
  | string s => quoteText s
  | identifier name => name
  | boolean b => if b then "true" else "false"
  | pattern p => slashPattern p.text
  | quantity q => q.text

end InventoryFilter.Expr
