import InventoryFilter.Text.AsciiCase

set_option autoImplicit false

/-!
# Kinds of tokens
-/

namespace InventoryFilter

/-- What a token is. -/
inductive TokenKind
  | equal
  | notEqual
  | less
  | lessEqual
  | greater
  | greaterEqual
  | like
  | notLike
  | and
  | or
  | openBracket
  | closeBracket
  | string
  | pattern
  | boolean
  | quantity
  | identifier
  | illegal
  | finish
  deriving DecidableEq, Repr, Inhabited

namespace TokenKind

/-- The name of the kind in messages and listings. -/
def name : TokenKind → String
  | equal => "="
  | notEqual => "!="
  | less => "<"
  | lessEqual => "<="
  | greater => ">"
  | greaterEqual => ">="
  | like => "~"
  | notLike => "!~"
  | and => "and"
  | or => "or"
  | openBracket => "("
  | closeBracket => ")"
  | string => "string"
  | pattern => "regex"
  | boolean => "boolean"
  | quantity => "quantity"
  | identifier => "identifier"
  | illegal => "illegal"
  | finish => "eol"

/-- The SQL operator of the same meaning, if there is one. -/
def sql? : TokenKind → Option String
  | equal => some "="
  | notEqual => some "!="
  | less => some "<"
  | lessEqual => some "<="
  | greater => some ">"
  | greaterEqual => some ">="
  | and => some "AND"
  | or => some "OR"
  | _ => none

/-- The words with a meaning of their own. -/
def keywords : List (String × TokenKind) :=
  [("and", and), ("or", or), ("true", boolean), ("false", boolean)]

/-- The kind of a word: a keyword in any ASCII case, and otherwise an identifier. -/
def ofWord (word : List Char) : TokenKind :=
  match keywords.find? fun entry => Text.sameIgnoringCase entry.1.toList word with
  | some (_, kind) => kind
  | none => identifier

end TokenKind

end InventoryFilter
