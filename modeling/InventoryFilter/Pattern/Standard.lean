import InventoryFilter.Pattern.Basic
import InventoryFilter.Pattern.Encoding
import InventoryFilter.Pattern.Nesting
import InventoryFilter.Pattern.Reader
import InventoryFilter.Pattern.Size

set_option autoImplicit false

/-!
# The validator of the program

The program reads a regular expression into a tree and checks the tree.  This is one validator among
others, and has to be opened where it is meant.
-/

namespace InventoryFilter.Pattern

/-- Whether the text is a valid pattern: first its spelling is checked, then its nesting, then its
use of characters and bytes, and last its size. -/
def check (text : String) : Except Fault Unit := do
  let node ← Node.ofText text.toList
  if nestLimit < node.depth then .error .nestingTooDeep
  let _ ← node.check true
  if sizeLimit < node.size then .error .tooLarge

/-- The words about a fault.  Only the size of a pattern is no matter of its spelling. -/
def Fault.refusal (fault : Fault) : Refusal :=
  if fault = .tooLarge then .other fault.message else .spelling ("error: " ++ fault.message)

namespace Standard

scoped instance validator : Validator where
  check text :=
    match Pattern.check text with
    | .ok () => .ok ()
    | .error fault => .error fault.refusal

end Standard

end InventoryFilter.Pattern
