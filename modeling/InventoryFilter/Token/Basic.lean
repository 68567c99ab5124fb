import InventoryFilter.Token.Kind

set_option autoImplicit false

/-!
# Tokens

A token is a piece of a filter together with its place, counted in bytes.
-/

namespace InventoryFilter

/-- The bytes from `start` up to but without `stop`. -/
structure Span where
  start : Nat
  stop : Nat
  deriving DecidableEq, Repr, Inhabited

/-- The empty span at an offset. -/
def Span.at (offset : Nat) : Span := ⟨offset, offset⟩

/-- A token.  Its lexeme is what the filter says there, without the quotes of a text and without
the slashes of a pattern. -/
structure Token where
  kind : TokenKind
  span : Span
  lexeme : String
  deriving DecidableEq, Repr, Inhabited

namespace Token

/-- The offset at which the token begins. -/
def position (t : Token) : Nat := t.span.start

/-- Whether the token is the end of the input. -/
def isFinish (t : Token) : Bool := t.kind == .finish

/-- The end of the input at an offset. -/
def finishAt (offset : Nat) : Token := ⟨.finish, .at offset, ""⟩

end Token

end InventoryFilter
