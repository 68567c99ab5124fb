import InventoryFilter.Pattern.Escape
import InventoryFilter.Decimal.Basic

set_option autoImplicit false

/-!
# Repetitions

A repetition applies to the part of the pattern right before it.  A question mark after it changes
which match is preferred, and so nothing that matters here.
-/

namespace InventoryFilter.Pattern

open InventoryFilter.Text

/-- The bounds of a repetition. -/
structure Bounds where
  least : Nat
  most : Option Nat
  deriving DecidableEq, Repr, Inhabited

/-- The bounds of the repetitions of one character. -/
def Bounds.ofChar? : Char → Option Bounds
  | '?' => some ⟨0, some 1⟩
  | '*' => some ⟨0, none⟩
  | '+' => some ⟨1, none⟩
  | _ => none

/-- Whether the least count is within the greatest. -/
def Bounds.isOrdered (b : Bounds) : Bool :=
  match b.most with
  | none => true
  | some most => b.least ≤ most

/-- The text after the question mark that may follow a repetition. -/
def dropLazy : List Char → List Char
  | '?' :: rest => rest
  | cs => cs

/-- A count with blanks around it, and the rest of the text.  That there is no count may turn out
to be no fault, or not the first one. -/
def readCount (spaced : Bool) (cs : List Char) : Except Fault Nat × List Char :=
  let (digits, rest) := spanSpaced spaced Char.isDigit false (cs.dropWhile isBlank)
  let n := Decimal.ofDigits digits
  let value :=
    if digits.isEmpty then .error .countEmpty
    else if n < Nat.pow 2 32 then .ok n
    else .error .countTooLarge
  (value, rest.dropWhile isBlank)

/-- The counts between the braces, after the opening brace. -/
def readBounds (spaced : Bool) (cs : List Char) : Except Fault (Bounds × List Char) :=
  match skipSpacing spaced cs with
  | [] => .error .countUnclosed
  | cs =>
    match readCount spaced cs with
    | (_, []) => .error .countUnclosed
    | (least, ',' :: rest) =>
      match skipSpacing spaced rest with
      | [] => .error .countUnclosed
      | c :: rest =>
        if c = '\x7d' then do
          let least ← least
          .ok (⟨least, none⟩, c :: rest)
        else do
          let least ← least
          let (most, rest) := readCount spaced (c :: rest)
          let most ← most
          .ok (⟨least, some most⟩, rest)
    | (exactly, rest) => do
      let n ← exactly
      .ok (⟨n, some n⟩, rest)

/-- A counted repetition, after its opening brace. -/
def readCounted (spaced : Bool) (cs : List Char) : Except Fault (Bounds × List Char) := do
  let (bounds, rest) ← readBounds spaced cs
  match rest with
  | '\x7d' :: rest =>
    if bounds.isOrdered then .ok (bounds, dropLazy (skipSpacing spaced rest))
    else .error .countReversed
  | _ => .error .countUnclosed

/-- The last node, which a repetition applies to, and the nodes before it.  Flags cannot be
repeated. -/
def lastRepeatable : List Node → Except Fault (Node × List Node)
  | [] | .directive _ :: _ => .error .repetitionMissing
  | node :: before => .ok (node, before)

/-- The node repeated. -/
def Node.repeated (node : Node) (bounds : Bounds) : Node :=
  .repetition node bounds.least bounds.most

end InventoryFilter.Pattern
