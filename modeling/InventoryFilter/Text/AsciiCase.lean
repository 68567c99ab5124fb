set_option autoImplicit false

/-!
# Comparison up to ASCII case

Keywords and unit suffixes are recognised in any mixture of small and capital ASCII letters.  No
other character has a second spelling: the Kelvin sign is not a `k`.
-/

namespace InventoryFilter.Text

/-- The characters with their capital ASCII letters made small. -/
def asciiLower (cs : List Char) : List Char := cs.map Char.toLower

@[simp] theorem length_asciiLower (cs : List Char) : (asciiLower cs).length = cs.length := by
  simp [asciiLower]

/-- Whether two texts are equal up to the case of their ASCII letters. -/
def sameIgnoringCase (cs ds : List Char) : Bool := asciiLower cs == asciiLower ds

theorem sameIgnoringCase_iff (cs ds : List Char) :
    sameIgnoringCase cs ds = true ↔ asciiLower cs = asciiLower ds := by
  simp [sameIgnoringCase]

end InventoryFilter.Text
