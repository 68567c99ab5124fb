set_option autoImplicit false

/-!
# Text in columns

Padding with spaces to a width in characters.  A text that is already wide enough stays as it is.
-/

namespace InventoryFilter.Text

/-- Where a text stands within its column. -/
inductive Alignment
  | left
  | right
  | center
  deriving DecidableEq, Repr, Inhabited

/-- A run of spaces. -/
def spaces (n : Nat) : String := String.ofList (List.replicate n ' ')

/-- The text with spaces added up to the width.  In the centre an odd space goes to the right. -/
def pad (alignment : Alignment) (width : Nat) (s : String) : String :=
  let missing := width - s.length
  match alignment with
  | .left => s ++ spaces missing
  | .right => spaces missing ++ s
  | .center => spaces (missing / 2) ++ s ++ spaces (missing - missing / 2)

end InventoryFilter.Text
