import InventoryFilter.Pattern.Refusal
import InventoryFilter.Quantity.Reader
import InventoryFilter.Text.Measure
import InventoryFilter.Text.Pad
import InventoryFilter.Token.Lexeme

set_option autoImplicit false

/-!
# Why a filter is rejected

A rejection names a cause and the offset at which the filter cannot be read on.
-/

namespace InventoryFilter

/-- Why a filter is rejected. -/
inductive Cause
  /-- a closing bracket has no opening bracket -/
  | unmatchedClose
  /-- an opening bracket has no closing bracket -/
  | unmatchedOpen
  /-- a token stands where something else is expected -/
  | unexpected (expected : String) (kind : TokenKind) (lexeme : String)
  /-- the filter ends where something is expected -/
  | unexpectedFinish (expected : String)
  /-- a piece of the filter is no token -/
  | illegal (lexeme : String)
  /-- a quantity is refused -/
  | quantity (fault : QuantityFault)
  /-- a pattern is refused -/
  | pattern (refusal : Pattern.Refusal)
  /-- a cause in words -/
  | described (message : String)
  deriving DecidableEq, Repr, Inhabited

namespace Cause

/-- What is said about a piece of a filter that is no token. -/
def illegalMessage (lexeme : String) : String :=
  match lexeme.toList with
  | c :: rest =>
    if Lexeme.isQuote c then
      if rest = [c] then "empty string literal" else "unterminated string literal"
    else if c = '/' then "unterminated regex literal"
    else if c = '!' then "unexpected '!': expected '!=' or '!~'"
    else "unsupported character '" ++ lexeme ++ "'"
  | [] => "unsupported character '" ++ lexeme ++ "'"

/-- What is said about a pattern. -/
def patternMessage (refusal : Pattern.Refusal) : String := "invalid regex: " ++ refusal.detail

/-- What is said about a cause. -/
def message : Cause → String
  | unmatchedClose => "unmatched ')'"
  | unmatchedOpen => "unmatched '('"
  | unexpected expected kind lexeme =>
    if lexeme.isEmpty then "unexpected " ++ kind.name ++ ": expected " ++ expected
    else "unexpected " ++ kind.name ++ " '" ++ lexeme ++ "': expected " ++ expected
  | unexpectedFinish expected => "unexpected end of input: expected " ++ expected
  | illegal lexeme => illegalMessage lexeme
  | quantity fault => fault.message
  | pattern refusal => patternMessage refusal
  | described message => message

end Cause

/-- A cause at an offset. -/
structure Rejection where
  position : Nat
  cause : Cause
  deriving DecidableEq, Repr, Inhabited

namespace Rejection

/-- What is said about the rejection. -/
def message (r : Rejection) : String := r.cause.message

/-- The message with its position. -/
def text (r : Rejection) : String := r.message ++ " at position " ++ toString r.position

/-- How many characters of the input stand before the position.  A position that is not the start
or the end of a character of the input counts as it is. -/
def column (r : Rejection) (input : String) : Nat :=
  (Text.charsBefore? r.position input.toList).getD r.position

/-- The input with a line below it that has a caret at the position and the message after it. -/
def caretText (r : Rejection) (input : String) : String :=
  input ++ "\n" ++ Text.spaces (r.column input) ++ "^ " ++ r.message

end Rejection

end InventoryFilter
