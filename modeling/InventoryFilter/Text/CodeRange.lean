set_option autoImplicit false

/-!
# Ranges of code points

A character property is a list of ranges of code points, in increasing order and without
overlap.  Looking a code point up stops at the first range that begins above it.  The tables of the
properties are those of Unicode 17.0.
-/

namespace InventoryFilter.Text

/-- The code points from the first component to the second, both included. -/
abbrev CodeRange := Nat × Nat

/-- Whether the code point lies in one of the ranges, which are listed in increasing order. -/
def inRanges : List CodeRange → Nat → Bool
  | [], _ => false
  | (first, last) :: rest, n => if n < first then false else n ≤ last || inRanges rest n

theorem inRanges_cons (first last n : Nat) (rest : List CodeRange) :
    inRanges ((first, last) :: rest) n =
      if n < first then false else n ≤ last || inRanges rest n := rfl

end InventoryFilter.Text
