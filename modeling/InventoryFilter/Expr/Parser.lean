import InventoryFilter.Expr.Basic
import InventoryFilter.Rejection
import InventoryFilter.Token.Scanner

set_option autoImplicit false

/-!
# Reading expressions

Tokens are read into an expression by the strength of their operators: an operand is followed by
operators, each with an operand that binds at least as tightly as the operator asks for.  The first
token that cannot be read on is reported.  A parser keeps its place, so that it can be asked again
after a rejection.
-/

namespace InventoryFilter

variable [Pattern.Validator]

namespace TokenKind

/-- Whether an operand may begin with a token of the kind. -/
def startsOperand : TokenKind → Bool
  | string | pattern | boolean | quantity | identifier | openBracket => true
  | _ => false

end TokenKind

namespace Token

/-- The expression that a token stands for on its own, unless it stands for none. -/
def leaf? (t : Token) : Option (Except Cause Expr) :=
  match t.kind with
  | .string => some (.ok (.string t.lexeme))
  | .identifier => some (.ok (.identifier t.lexeme))
  | .boolean =>
    some (.ok (.boolean (Text.sameIgnoringCase t.lexeme.toList ['t', 'r', 'u', 'e'])))
  | .quantity =>
    match Quantity.ofText t.lexeme with
    | .ok q => some (.ok (.quantity q))
    | .error fault => some (.error (.quantity fault))
  | .pattern =>
    match Pattern.ofText t.lexeme with
    | .ok p => some (.ok (.pattern p))
    | .error refusal => some (.error (.pattern refusal))
  | _ => none

/-- The rejection of a token that is illegal or stands where something else is expected. -/
def refuse (t : Token) (expected : String) : Rejection :=
  if t.kind = .illegal then ⟨t.position, .illegal t.lexeme⟩
  else ⟨t.position, .unexpected expected t.kind t.lexeme⟩

end Token

/-- Where reading stopped: why, and the tokens that are left. -/
structure Halt where
  rejection : Rejection
  rest : List Token
  deriving DecidableEq, Repr, Inhabited

namespace Parser

mutual

/-- An operand at the beginning of the tokens, which end with `finish`. -/
def operand (finish : Token) : Nat → List Token → Except Halt (Expr × List Token)
  | 0, ts => .error ⟨⟨finish.position, .unexpectedFinish "expression"⟩, ts⟩
  | _ + 1, [] => .error ⟨⟨finish.position, .unexpectedFinish "expression"⟩, []⟩
  | fuel + 1, t :: ts =>
    if t.kind = .openBracket then
      match climb finish fuel 0 ts with
      | .error halt => .error halt
      | .ok (_, []) => .error ⟨⟨t.position, .unmatchedOpen⟩, []⟩
      | .ok (inner, u :: rest) =>
        if u.kind = .closeBracket then .ok (inner, rest)
        else .error ⟨u.refuse "')'", u :: rest⟩
    else
      match t.leaf? with
      | some (.ok e) => .ok (e, ts)
      | some (.error cause) => .error ⟨⟨t.position, cause⟩, ts⟩
      | none => .error ⟨t.refuse "expression", t :: ts⟩

/-- An operand, and operators with at least the given strength after it. -/
def climb (finish : Token) : Nat → Nat → List Token → Except Halt (Expr × List Token)
  | 0, _, ts => .error ⟨⟨finish.position, .unexpectedFinish "expression"⟩, ts⟩
  | fuel + 1, least, ts =>
    match operand finish fuel ts with
    | .error halt => .error halt
    | .ok (left, rest) => operators finish fuel least left rest

/-- Operators with at least the given strength after the expression on their left. -/
def operators (finish : Token) :
    Nat → Nat → Expr → List Token → Except Halt (Expr × List Token)
  | 0, _, _, ts => .error ⟨⟨finish.position, .unexpectedFinish "expression"⟩, ts⟩
  | _ + 1, _, left, [] => .ok (left, [])
  | fuel + 1, least, left, t :: ts =>
    match Operator.ofKind? t.kind with
    | none => .ok (left, t :: ts)
    | some op =>
      if op.leftPower < least then .ok (left, t :: ts)
      else
        match climb finish fuel op.rightPower ts with
        | .error halt => .error halt
        | .ok (right, rest) => operators finish fuel least (.binary left op right) rest

end

/-- Fuel that reading so many tokens never uses up: a token is taken at least every second step. -/
def fuelFor (ts : List Token) : Nat := 2 * ts.length + 3

end Parser

/-- The tokens that are still to be read, and the token that ends them. -/
structure Parser where
  pending : List Token
  finish : Token
  deriving DecidableEq, Repr, Inhabited

namespace Parser

/-- A parser for a list of tokens.  They end with the first end of input among them, or else right
after the last of them. -/
def ofTokens (ts : List Token) : Parser :=
  match ts.dropWhile (!·.isFinish) with
  | finish :: _ => ⟨ts.takeWhile (!·.isFinish), finish⟩
  | [] => ⟨ts, .finishAt ((ts.getLast?.map (·.span.stop)).getD 0)⟩

/-- An operand, and operators with at least the given strength after it. -/
def binary (p : Parser) (least : Nat) : Except Halt (Expr × List Token) :=
  climb p.finish (fuelFor p.pending) least p.pending

/-- Why a complete expression cannot be followed by the token. -/
def refuseAfter (t : Token) : Rejection :=
  if t.kind = .closeBracket then ⟨t.position, .unmatchedClose⟩
  else if t.kind.startsOperand then t.refuse "operator"
  else t.refuse "end of input"

/-- All tokens as one expression, and the parser at the place where reading ended. -/
def expression (p : Parser) : Except Rejection Expr × Parser :=
  match p.binary 0 with
  | .error halt => (.error halt.rejection, { p with pending := halt.rest })
  | .ok (e, []) => (.ok e, { p with pending := [] })
  | .ok (_, t :: rest) => (.error (refuseAfter t), { p with pending := t :: rest })

/-- The results of asking for an expression so many times. -/
def expressions : Nat → Parser → List (Except Rejection Expr)
  | 0, _ => []
  | n + 1, p => p.expression.1 :: expressions n p.expression.2

end Parser

/-- The expression that a filter spells. -/
def parse (input : String) : Except Rejection Expr :=
  (Parser.ofTokens (tokenize input)).expression.1

end InventoryFilter
