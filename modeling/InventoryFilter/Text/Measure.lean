set_option autoImplicit false

/-!
# The length of a text in bytes

Positions in a filter count the bytes of its UTF-8 form.  The scanner works on lists of
characters, so the byte length of a list of characters is the measure that ties the two together.
-/

namespace InventoryFilter.Text

/-- The number of bytes that the characters take in UTF-8. -/
def byteLength (cs : List Char) : Nat := cs.foldr (fun c n => c.utf8Size + n) 0

@[simp] theorem byteLength_nil : byteLength [] = 0 := rfl

@[simp] theorem byteLength_cons (c : Char) (cs : List Char) :
    byteLength (c :: cs) = c.utf8Size + byteLength cs :=
  rfl

@[simp] theorem byteLength_append (cs ds : List Char) :
    byteLength (cs ++ ds) = byteLength cs + byteLength ds := by
  induction cs with
  | nil => simp
  | cons c cs ih =>
    rw [List.cons_append, byteLength_cons, byteLength_cons, ih, Nat.add_assoc]

/-- Each character takes at least one byte. -/
theorem length_le_byteLength (cs : List Char) : cs.length ≤ byteLength cs := by
  induction cs with
  | nil => simp
  | cons c cs ih =>
    have h := c.utf8Size_pos
    simp only [List.length_cons, byteLength_cons]
    omega

/-- The number of characters in the first `offset` bytes, if that offset is the start or the end
of a character. -/
def charsBefore? : Nat → List Char → Option Nat
  | 0, _ => some 0
  | _ + 1, [] => none
  | offset + 1, c :: cs =>
    if c.utf8Size ≤ offset + 1 then
      (charsBefore? (offset + 1 - c.utf8Size) cs).map (· + 1)
    else none

end InventoryFilter.Text
