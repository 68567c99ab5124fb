import InventoryFilter.Pattern.Refusal

set_option autoImplicit false

/-!
# Patterns

A pattern is the text of a regular expression that has been found valid.  It is checked and handed
on; nothing here matches it against a text.  What is valid is for a validator to say, and nothing
but the program itself depends on which one is asked.
-/

namespace InventoryFilter

/-- What tells regular expressions from other texts. -/
class Pattern.Validator where
  /-- whether the text is a regular expression, or why it is none -/
  check : String → Except Pattern.Refusal Unit

variable [Pattern.Validator]

/-- A valid pattern. -/
structure Pattern where
  text : String
  valid : Pattern.Validator.check text = .ok ()
  deriving DecidableEq

namespace Pattern

instance : Repr Pattern := ⟨fun p _ => repr p.text⟩

@[ext] theorem ext {p q : Pattern} (h : p.text = q.text) : p = q := by
  cases p
  cases q
  cases h
  rfl

/-- The pattern with the given text, if it is valid. -/
def ofText (text : String) : Except Refusal Pattern :=
  match h : Validator.check text with
  | .ok () => .ok ⟨text, h⟩
  | .error refusal => .error refusal

theorem ofText_eq_ok_iff {text : String} {p : Pattern} : ofText text = .ok p ↔ p.text = text := by
  constructor
  · intro h
    unfold ofText at h
    split at h
    · cases h
      rfl
    · cases h
  · rintro rfl
    have hp := p.valid
    unfold ofText
    split
    · rfl
    · next h => rw [hp] at h; cases h

end Pattern

end InventoryFilter
